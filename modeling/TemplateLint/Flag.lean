import TemplateLint.Document
import TemplateLint.Settings.Basic

/-!
# Flags of the tool

Each flag that the tool may be given is described by the setting that turns it on and by how that
setting becomes words of the command line.  The tables are in the order of the command line.
Main exports: `Flag`, `Flag.render`, `Mode.flags`, `Mode.words`, `Flag.find?`.
-/

namespace TemplateLint

/-- How a flag is written. -/
inductive FlagKind where
  /-- Always, alone. -/
  | fixed
  /-- Alone, when the setting is on. -/
  | switch
  /-- With a text that is not empty. -/
  | text
  /-- With the texts of a list joined by commas. -/
  | list
  /-- With a number. -/
  | number
  /-- With words of its own, when the setting is on. -/
  | template (words : String)
  /-- With a profile, chosen by the user or guessed from the language. -/
  | profile
  /-- With the width of a tabulator in the editor, or a number. -/
  | indentation
deriving DecidableEq, Repr

/-- A flag of the tool. -/
structure Flag where
  kind : FlagKind
  setting : Option String
  name : String
  since : Option String
deriving DecidableEq, Repr

/-- The profile that fits a language of the editor. -/
def guessProfile : String → Option String
  | "django-html" => some "django"
  | "handlebars" => some "handlebars"
  | "hbs" => some "handlebars"
  | "mustache" => some "handlebars"
  | "jinja" => some "jinja"
  | "jinja-html" => some "jinja"
  | "nj" => some "nunjucks"
  | "njk" => some "nunjucks"
  | "nunjucks" => some "nunjucks"
  | "twig" => some "nunjucks"
  | _ => none

namespace Flag

/-- The value that follows the flag, or none when the flag is left out; a flag without a value has
the empty list. -/
def value? (flag : Flag) (settings : Settings) (languageId : String) (tabSize : Option Nat) :
    Option (List String) :=
  let key := flag.setting.getD ""
  match flag.kind with
  | .fixed => some []
  | .switch => if settings.isOn key then some [] else none
  | .text => (settings.text? key).map ([·])
  | .list =>
      match settings.texts key with
      | [] => none
      | values => some [",".intercalate values]
  | .number => (settings.number? key).map fun value => [Text.integerText value]
  | .template words => if settings.isOn key then some [words] else none
  | .profile =>
      let guessed := if settings.isOn "guessProfile" then guessProfile languageId else none
      ((settings.text? key).or guessed).map ([·])
  | .indentation =>
      let editor := if settings.isOn "useEditorIndentation" then tabSize else none
      ((editor.map Int.ofNat).or (settings.number? key)).map fun size => [Text.integerText size]

/-- The words of the command line that the flag becomes. -/
def render (flag : Flag) (settings : Settings) (languageId : String) (tabSize : Option Nat) :
    List String :=
  match flag.value? settings languageId tabSize with
  | none => []
  | some value => flag.name :: value

def displayName (flag : Flag) : String :=
  match flag.setting with
  | some setting => Settings.sectionName ++ "." ++ setting
  | none => flag.name

/-! ## The tables -/

/-- How the tool is told to delimit the fields of a problem. -/
def delimitedTemplate : String :=
  "<filename>\x7bfilename\x7d</filename><line>\x7bline\x7d</line><code>\x7bcode\x7d</code><message>\x7bmessage\x7d</message>"

/-- The flag that names a configuration file of the tool. -/
def configuration : Flag := ⟨.text, "configuration", "--configuration", "1.13.0"⟩

def common : List Flag :=
  [configuration,
    ⟨.profile, "profile", "--profile", "0.7.0"⟩,
    ⟨.list, "customBlocks", "--custom-blocks", "1.5.0"⟩,
    ⟨.list, "customHtml", "--custom-html", "1.5.0"⟩,
    ⟨.number, "maxLineLength", "--max-line-length", "1.25.0"⟩,
    ⟨.number, "maxAttributeLength", "--max-attribute-length", "1.25.0"⟩,
    ⟨.switch, "requirePragma", "--require-pragma", "1.19.0"⟩,
    ⟨.switch, "ignoreCase", "--ignore-case", "1.19.0"⟩]

def formatting : List Flag :=
  [⟨.fixed, none, "--reformat", none⟩,
    ⟨.indentation, "indentation", "--indent", "1.0.0"⟩,
    ⟨.switch, "formatAttributeTemplateTags", "--format-attribute-template-tags", "1.25.0"⟩,
    ⟨.switch, "formatCss", "--format-css", "1.9.0"⟩,
    ⟨.switch, "formatJs", "--format-js", "1.9.0"⟩,
    ⟨.number, "indentCss", "--indent-css", "1.9.0"⟩,
    ⟨.number, "indentJs", "--indent-js", "1.9.0"⟩,
    ⟨.switch, "preserveBlankLines", "--preserve-blank-lines", "1.3.0"⟩,
    ⟨.switch, "preserveLeadingSpace", "--preserve-leading-space", "1.2.0"⟩,
    ⟨.number, "maxBlankLines", "--max-blank-lines", "1.25.0"⟩,
    ⟨.list, "blankLineAfterTag", "--blank-line-after-tag", "1.25.0"⟩,
    ⟨.list, "blankLineBeforeTag", "--blank-line-before-tag", "1.25.0"⟩,
    ⟨.switch, "closeVoidTags", "--close-void-tags", "1.25.0"⟩,
    ⟨.switch, "lineBreakAfterMultilineTag", "--line-break-after-multiline-tag", "1.25.0"⟩,
    ⟨.list, "ignoreBlocks", "--ignore-blocks", "1.25.0"⟩,
    ⟨.switch, "noLineAfterYaml", "--no-line-after-yaml", "1.29.0"⟩,
    ⟨.switch, "noFunctionFormatting", "--no-function-formatting", "1.32.0"⟩,
    ⟨.switch, "noSetFormatting", "--no-set-formatting", "1.32.0"⟩]

def linting : List Flag :=
  [⟨.fixed, none, "--lint", none⟩,
    ⟨.list, "ignore", "--ignore", "1.0.0"⟩,
    ⟨.list, "include", "--include", "1.0.0"⟩,
    ⟨.template delimitedTemplate, "useNewLinterOutputParser", "--linter-output-format", "1.25.0"⟩]

/-- The flag of the given name, in any table. -/
def find? (name : String) : Option Flag :=
  (common ++ formatting ++ linting).find? fun flag => flag.name = name

end Flag

/-- What the tool is asked to do. -/
inductive Mode where
  | format
  | lint
deriving DecidableEq, Repr

namespace Mode

/-- The flags of a mode, in the order of the command line. -/
def flags : Mode → List Flag
  | .format => Flag.formatting ++ Flag.common
  | .lint => Flag.linting ++ Flag.common

/-- The words of the command line after the name of the tool. -/
def words (mode : Mode) (settings : Settings) (languageId : String) (tabSize : Option Nat) :
    List String :=
  mode.flags.flatMap fun flag => flag.render settings languageId tabSize

end Mode

end TemplateLint
