/-
  Arguments of components from data.
-/
import PageCompiler.Component.Basic
import PageCompiler.Document.Loading

namespace PageCompiler

open Checked

namespace FieldName

def typeDef : FieldName := ⟨"typeDef", "type_def"⟩
def defaultValue : FieldName := ⟨"defaultValue", "default_value"⟩
def defaultValueProp : FieldName := ⟨"defaultValueProp", "default_value_prop"⟩
def onChangeProp : FieldName := ⟨"onChangeProp", "on_change_prop"⟩
def onChangeHandler : FieldName := ⟨"onChangeHandler", "on_change_handler"⟩
def control : FieldName := ⟨"control", "control"⟩
def params : FieldName := ⟨"params", "params"⟩
def valueGetter : FieldName := ⟨"valueGetter", "value_getter"⟩

end FieldName

def ChangeHandler.check (origin : Origin) : Json → Checked ChangeHandler :=
  model origin fun fields =>
    ChangeHandler.mk <$> withDefault [] .params (list string) fields
      <*> required .valueGetter string fields

def Argument.check (origin : Origin) : Json → Checked Argument :=
  model origin fun fields =>
    Argument.mk <$> required .typeDef (checkType origin) fields
      <*> withDefault none .defaultValue (fun value => (any value).map some) fields
      <*> withDefault none .defaultValueProp (nullable string) fields
      <*> withDefault none .onChangeProp (nullable string) fields
      <*> withDefault none .onChangeHandler (nullable (ChangeHandler.check origin)) fields
      <*> withDefault none .control (nullable (checkType origin)) fields

end PageCompiler
