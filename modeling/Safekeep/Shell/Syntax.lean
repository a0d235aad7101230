/-!
# Shell scripts: syntax

The command language of the system shell, as small tool scripts use it.

A *word* is a list of parts: literal text; a parameter expansion (`$name`, `${name}`, the
positional and special parameters, `${#name}`, prefix and suffix removal `${name#pat}`,
`${name##pat}`, `${name%pat}`, `${name%%pat}`, and the conditional forms `${name:-word}`,
`${name:=word}`, `${name:+word}`, `${name:?word}` with or without the colon); a command
substitution, kept as its source text with the line it starts on and read when it runs; an
arithmetic expansion; or a tilde prefix. Each part records whether it stood inside quotes:
quoted text is neither split into fields nor read as a pattern.

A *command* is a simple command (the line it stands on, assignments, words, redirections), a
pipeline, an and-or list, a sequence, a command sent to the background, a `for` loop, a `case`,
an `if`, a `while` or `until` loop, a group in braces or parentheses (the latter a subshell), or
the definition of a function.
-/

namespace Safekeep.Shell

/-- How a conditional expansion treats its word. -/
inductive Alt
  -- `-`: the word when the parameter is unset.
  | useDefault
  -- `=`: the word, also assigned, when the parameter is unset.
  | assign
  -- `+`: the word when the parameter is set.
  | useAlt
  -- `?`: a failure when the parameter is unset.
  | require
  deriving DecidableEq, Repr

/-- A piece of a word. -/
inductive Part
  -- Literal text.
  | text (s : String) (quoted : Bool)
  -- The value of a parameter.
  | param (name : String) (quoted : Bool)
  -- The length of a parameter's value.
  | length (name : String) (quoted : Bool)
  -- A parameter's value with the shortest or longest prefix or suffix matching a pattern removed.
  | trim (name : String) (suffix longest : Bool) (pattern : List Part) (quoted : Bool)
  -- A conditional expansion; `colon` counts an empty value as unset.
  | alt (name : String) (how : Alt) (colon : Bool) (word : List Part) (quoted : Bool)
  -- The output of a command, given by its source text and the line it starts on.
  | subst (source : String) (line : Nat) (quoted : Bool)
  -- The value of an arithmetic expression, itself a word expanded first.
  | arith (expr : List Part) (quoted : Bool)
  -- The home directory of a user (the shell's own `HOME` for the empty name).
  | tilde (user : String)
  -- A braced expansion the shell cannot read: expanding it fails.
  | malformed
  deriving Repr, Inhabited

abbrev Word := List Part

/-- What a redirection does with its file descriptor. -/
inductive RedirKind
  -- `>` and `>|`: write to a file, truncating it.
  | write
  -- `>>`: append to a file.
  | append
  -- `<`: read from a file.
  | read
  -- `<>`: open a file for reading and writing.
  | readWrite
  -- `>&` and `<&`: copy another descriptor (or close with `-`).
  | dup
  -- `<<`: read the text of a here-document, which is the redirection's word.
  | here
  deriving DecidableEq, Repr, Inhabited

/-- A redirection: a descriptor, what is done with it, and the word naming the file (the text
itself for a here-document). -/
structure Redir where
  fd : Nat
  kind : RedirKind
  target : Word
  deriving Repr, Inhabited

/-- A command. -/
inductive Cmd
  -- Assignments, words and redirections, on a line of the script.
  | simple (line : Nat) (assigns : List (String × Word)) (words : List Word) (redirs : List Redir)
  -- Commands joined by `|`, the status negated when `bang`.
  | pipe (cmds : List Cmd) (bang : Bool)
  -- A command followed by commands each run after `&&` (true) or `||` (false).
  | andOr (first : Cmd) (rest : List (Bool × Cmd))
  -- Commands one after another.
  | seq (cmds : List Cmd)
  -- A command sent to the background with `&`.
  | background (body : Cmd)
  -- A loop over words, or over the positional parameters when there are none.
  | forIn (line : Nat) (var : String) (items : Option (List Word)) (body : Cmd)
  -- The first arm one of whose patterns matches the word.
  | caseOf (line : Nat) (subject : Word) (arms : List (List Word × Cmd))
  -- The first branch whose condition succeeds, else the last part.
  | ifThen (branches : List (Cmd × Cmd)) (otherwise : Option Cmd)
  -- A loop while (or, with `untilLoop`, until) a condition succeeds.
  | loop (untilLoop : Bool) (cond body : Cmd)
  -- A group with redirections; a subshell keeps its changes to itself.
  | group (body : Cmd) (subshell : Bool) (redirs : List Redir)
  -- The definition of a function, with the line its body starts on.
  | defun (name : String) (line : Nat) (body : Cmd)
  deriving Repr, Inhabited

def isNameStart (c : Char) : Bool := ('a' ≤ c && c ≤ 'z') || ('A' ≤ c && c ≤ 'Z') || c = '_'

def isNameChar (c : Char) : Bool := isNameStart c || ('0' ≤ c && c ≤ '9')

def isName (s : String) : Bool :=
  match s.toList with
  | c :: cs => isNameStart c && cs.all isNameChar
  | [] => false

def Word.plain? : Word → Option String
  | [.text s false] => some s
  | _ => none

end Safekeep.Shell
