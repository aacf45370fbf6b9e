import BuildMonitor.Script.Word

/-!
# Commands of a script

Commands are built from calls of programs by pipelines, lists, loops and the like. A simple command
keeps the line it stands on, which messages about it show.

Main definitions: `Redirect`, `Command`.
-/

namespace BuildMonitor.Script

/-- What a redirection does to a descriptor. -/
inductive Redirection where
  /-- Reads from a file. -/
  | input
  /-- Writes to a file from its start. -/
  | output
  /-- Writes to the end of a file. -/
  | append
  /-- Means what another descriptor means, or nothing. -/
  | duplicate
  /-- Reads the word itself. -/
  | document
  deriving DecidableEq, Repr

/-- A redirection. -/
structure Redirect where
  descriptor : Nat
  kind : Redirection
  target : Word
  deriving Repr

/-- A command. -/
inductive Command where
  | nothing
  | simple (line : Nat) (assignments : List (Octets × Word)) (words : List Word)
      (redirects : List Redirect)
  | pipeline (stages : List Command)
  | negation (body : Command)
  | sequence (first second : Command)
  /-- The second runs if the first succeeds. -/
  | both (first second : Command)
  /-- The second runs if the first fails. -/
  | either (first second : Command)
  | background (body : Command)
  | subshell (body : Command)
  | redirected (line : Nat) (body : Command) (redirects : List Redirect)
  | conditional (condition positive negative : Command)
  /-- Repeats while the condition succeeds, or until it does. -/
  | loop (untilSuccess : Bool) (condition body : Command)
  | each (line : Nat) (name : Octets) (words : List Word) (body : Command)
  | choice (line : Nat) (subject : Word) (branches : List (List Word × Command))
  | definition (name : Octets) (body : Command)
  deriving Repr

instance : Inhabited Command := ⟨.nothing⟩

end BuildMonitor.Script
