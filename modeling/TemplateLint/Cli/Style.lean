import TemplateLint.Program

/-!
# Coloured words

Words are set off by terminal escapes, if the environment asks for them or the output is a terminal.
Main exports: `Style`, `Style.apply`, `isColoured`.
-/

namespace TemplateLint.Cli

/-- How a word is set off. -/
inductive Style where
  | bold
  | red
  | green
  | yellow
  | boldRed
deriving DecidableEq, Repr

def Style.start : Style → String
  | .bold => "\x1b[1m"
  | .red => "\x1b[31m"
  | .green => "\x1b[32m"
  | .yellow => "\x1b[33m"
  | .boldRed => "\x1b[1;31m"

/-- The escape that ends every style. -/
def Style.finish : String := "\x1b[0m"

/-- A text in a style, which starts anew wherever the text itself ends it. -/
def Style.apply (coloured : Bool) (style : Style) (text : String) : String :=
  if coloured then
    style.start ++ text.replace Style.finish (Style.finish ++ style.start) ++ Style.finish
  else text

/-- The output is coloured: the environment forces it, or it is a terminal and nothing forbids
it. -/
def isColoured (environ : Variables) (terminal : Bool) : Bool :=
  match Variables.get? environ "CLICOLOR_FORCE", Variables.get? environ "NO_COLOR" with
  | some "0", some _ => false
  | some "0", none => allowed
  | some _, _ => true
  | none, some _ => false
  | none, none => allowed
where
  /-- The output is a terminal, and colours are not turned off for it. -/
  allowed : Bool := terminal && Variables.get? environ "CLICOLOR" != some "0"

end TemplateLint.Cli
