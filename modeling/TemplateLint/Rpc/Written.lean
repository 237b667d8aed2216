import TemplateLint.Invocation

/-!
# Written form of what an editor receives

Main exports: `Position.toJson`, `Range.toJson`, `Diagnostic.toJson`, `TextEdit.toJson`.
-/

namespace TemplateLint

def Position.toJson (position : Position) : Json :=
  .object [("line", Json.ofNat position.line), ("character", Json.ofNat position.character)]

def Range.toJson (range : Range) : Json :=
  .object [("start", range.first.toJson), ("end", range.last.toJson)]

def Severity.number : Severity → Nat
  | .error => 1
  | .warning => 2
  | .information => 3
  | .hint => 4

/-- What every diagnostic names as its source. -/
def Diagnostic.source : String := "djlint"

def Diagnostic.toJson (diagnostic : Diagnostic) : Json :=
  .object
    [("range", diagnostic.range.toJson),
      ("severity", Json.ofNat diagnostic.severity.number),
      ("code", .text diagnostic.code),
      ("source", .text Diagnostic.source),
      ("message", .text diagnostic.message)]

def TextEdit.toJson (edit : TextEdit) : Json :=
  .object [("range", edit.range.toJson), ("newText", .text edit.newText)]

end TemplateLint
