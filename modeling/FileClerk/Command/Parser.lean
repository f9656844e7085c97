import FileClerk.Command.Grammar

/-!
# Reading a command

A command is read from the whole text of a file. `Command.body` is that text from its first
character that is not noise, with line ends folded; `Command.core` is the body without noise at its
end. A phrase is looked up in the core. Its rule reads the rest of the core, or, if it carries a
payload, the rest of the body up to one final line feed, the one an editor adds on saving.
-/

namespace FileClerk

namespace Command

def body (raw : Text) : Text := raw.dropMark.foldNewlines.trimStart isNoise

def core (raw : Text) : Text := (body raw).trimEnd isNoise

/-- A text without the line feed at its end. -/
def dropFinalNewline (s : Text) : Text := if s.getLast? = some '\n' then s.dropLast else s

end Command

namespace Grammar

def parse (grammar : Grammar) (raw : Text) : Except Refusal Operation :=
  let core := Command.core raw
  if core = [] then .error ⟨raw, .empty⟩
  else
    match grammar.find? core with
    | none => .error ⟨raw, .unknown⟩
    | some (phrase, rest) =>
      let rest :=
        if phrase.rule.keepsTail then
          (Command.dropFinalNewline (Command.body raw)).drop phrase.words.length
        else rest
      phrase.rule.apply rest raw

end Grammar

end FileClerk
