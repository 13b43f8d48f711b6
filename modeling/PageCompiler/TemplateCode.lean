/-
  Templates as code. Once every reference has code, a template is written as an expression of the
  generated language: the code alone, a string literal or a template literal.
-/
import PageCompiler.Json.StringLiteral
import PageCompiler.Template

namespace PageCompiler

/-- A part of a template whose reference has been looked up. -/
inductive ResolvedPart where
  | text (content : Text)
  | reference (path : Text) (code : Option Text)
deriving DecidableEq, Repr

/-- How a template is written. -/
inductive Directive where
  /-- The shortest form: lone code as it is, lone text as a string literal. -/
  | plain
  /-- Always a template literal. -/
  | stringLiteral
  /-- The plain form turned into a number. -/
  | number
deriving DecidableEq, Repr

inductive FormatError where
  | unknownDirective (name : Text)
  | unresolved (path : Text)
deriving DecidableEq, Repr

def FormatError.message : FormatError → Text
  | .unknownDirective name => "Unknown binding format " ++ Text.quoted name
  | .unresolved path => "Unresolved interpolation " ++ Text.quoted path

/-- The directive of that name; the empty name asks for none. -/
def Directive.ofName? (name : Text) : Option Directive :=
  if name = [] ∨ name = "default" then some .plain
  else if name = "stringLiteral" then some .stringLiteral
  else if name = "number" then some .number
  else none

namespace Template

def resolve (lookup : Text → Option Text) (parts : List TemplatePart) : List ResolvedPart :=
  parts.map fun
    | .text content => .text content
    | .reference path => .reference path (lookup path)

/-- Text inside a template literal: the marks of the literal are escaped, and so are line breaks
    and tabs. -/
def escapeLiteral : Text → Text
  | [] => []
  | '$' :: '\x7b' :: rest => '\\' :: '$' :: '\x7b' :: escapeLiteral rest
  | point :: rest =>
      let escaped : Text :=
        if point = '\\' ∨ point = '\x60' then ['\\', point]
        else if point = '\n' then "\\n"
        else if point = '\r' then "\\r"
        else if point = '\t' then "\\t"
        else [point]
      escaped ++ escapeLiteral rest

def literalPart : ResolvedPart → Text
  | .text content => escapeLiteral content
  | .reference _ code => "$\x7b" ++ code.getD [] ++ "\x7d"

def templateLiteral (parts : List ResolvedPart) : Text :=
  "\x60" ++ parts.flatMap literalPart ++ "\x60"

/-- The text of a template without references. -/
def plainText? : List ResolvedPart → Option Text
  | [] => some []
  | .text content :: rest => (plainText? rest).map (content ++ ·)
  | .reference _ _ :: _ => none

def plainExpression (parts : List ResolvedPart) : Text :=
  match parts with
  | [.reference _ code] => code.getD []
  | _ =>
      match plainText? parts with
      | some text => Json.stringLiteral text
      | none => templateLiteral parts

/-- The first reference without code. -/
def firstUnresolved? (parts : List ResolvedPart) : Option Text :=
  parts.findSome? fun
    | .reference path none => some path
    | _ => none

/-- Writes a resolved template. A directive that is not known is reported before a reference that
    has no code. -/
def format (hint : Option Text) (parts : List ResolvedPart) : Except FormatError Text :=
  match Directive.ofName? (hint.getD []), firstUnresolved? parts with
  | none, _ => .error (.unknownDirective (hint.getD []))
  | some _, some path => .error (.unresolved path)
  | some .plain, none => .ok (plainExpression parts)
  | some .stringLiteral, none => .ok (templateLiteral parts)
  | some .number, none => .ok ("Number(" ++ plainExpression parts ++ ")")

end Template

end PageCompiler
