import TemplateLint.Program

/-!
# Shells

The shells that completion scripts are made for.
Main exports: `Shell`, `Shell.ofName?`, `Shell.ofVariables?`, `Shell.script`.
-/

namespace TemplateLint

/-- A shell that can complete command lines. -/
inductive Shell where
  | bash
  | elvish
  | fish
  | powershell
  | zsh
deriving DecidableEq, Repr

namespace Shell

/-- All shells, in the order in which they are listed. -/
def all : List Shell := [bash, elvish, fish, powershell, zsh]

def name : Shell → String
  | bash => "bash"
  | elvish => "elvish"
  | fish => "fish"
  | powershell => "powershell"
  | zsh => "zsh"

def ofName? (text : String) : Option Shell :=
  all.find? fun shell => shell.name = text

def ofProgram? (program : Path) : Option Shell := do
  let stem ← program.stem?
  let name ← Utf8.decode? ⟨stem.toArray⟩
  if name = "powershell_ise" then some powershell else ofName? name

def ofVariables? (environ : Variables) : Option Shell :=
  (Variables.get? environ "SHELL").bind fun path => ofProgram? (Path.ofString path)

/-- The words that a command line may start with. -/
def commandWords : List String :=
  ["server", "format", "lint", "completions", "version", "help"]

/-- A script that completes the first word of a command line. -/
def script (shell : Shell) : String :=
  let words := " ".intercalate commandWords
  match shell with
  | bash => "complete -W \"" ++ words ++ "\" djlint-ls\n"
  | elvish => "set edit:completion:arg-completer[djlint-ls] = \x7b|@words| put " ++ words ++ " \x7d\n"
  | fish => "complete -c djlint-ls -f -n __fish_use_subcommand -a \"" ++ words ++ "\"\n"
  | powershell =>
      "Register-ArgumentCompleter -Native -CommandName djlint-ls -ScriptBlock \x7b \"" ++ words ++
        "\".Split(\" \") \x7d\n"
  | zsh => "#compdef djlint-ls\ncompadd " ++ words ++ "\n"

end Shell

end TemplateLint
