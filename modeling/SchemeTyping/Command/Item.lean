import SchemeTyping.Command.Word

/-! Items: a command line with every switch joined to its value. -/
namespace SchemeTyping.Command

/-- One use of a switch, with its value if it takes one. -/
structure Use where
  switch : Switch
  value : Option String := none
  deriving DecidableEq, Repr

/-- A switch used with a value. The separator is dropped wherever it stands for a value, and then
there is none. -/
def Use.valued (switch : Switch) (value : String) : Use :=
  ⟨switch, if value = Word.separator then none else some value⟩

/-- What one switch word says: the uses in it, and perhaps a last switch whose value is the next
word. -/
structure Expansion where
  uses : List Use
  wanting : Option Switch := none
  deriving DecidableEq, Repr

namespace Expansion

/-- A switch with nothing attached. -/
def bare (switch : Switch) : Expansion :=
  if switch.takesValue then ⟨[], some switch⟩ else ⟨[⟨switch, none⟩], none⟩

/-- A switch with its value attached. -/
def marked (switch : Switch) (value : List Char) : Except Misuse Expansion :=
  if switch.takesValue then .ok ⟨[.valued switch (String.ofList value)], none⟩
  else .error (.unwantedValue switch (String.ofList value))

/-- Put the use of a switch before an expansion. -/
def after (switch : Switch) (expansion : Expansion) : Expansion :=
  { expansion with uses := ⟨switch, none⟩ :: expansion.uses }

/-- A switch of one letter with text joined to it. The text is the value of the switch if it takes
one; else it is more letters, and every one of them has to be known. -/
def joined (known : List Switch) (switch : Switch) : List Char → Except Misuse Expansion
  | [] => marked switch []
  | letter :: rest =>
    if switch.takesValue then marked switch (letter :: rest)
    else
      match Switch.ofName? known (String.ofList ['-', letter]) with
      | none => .error (.unwantedValue switch (String.ofList (letter :: rest)))
      | some next =>
        match rest with
        | [] => .ok (after switch (bare next))
        | rest => (joined known next rest).map (after switch)

/-- What a switch word says. -/
def ofSwitch (known : List Switch) (switch : Switch) :
    Attachment → Except Misuse Expansion
  | .nothing => .ok (bare switch)
  | .marked value => marked switch value
  | .joined text => joined known switch text

end Expansion

/-- A step in reading a command line. -/
inductive Item where
  | uses (uses : List Use)
  | plain (text : String)
  | separator
  | unknown (text : String)
  | mistake (misuse : Misuse)
  deriving DecidableEq, Repr

namespace Item

/-- The items of classified words. A mistake is the last one. -/
def ofWords (known : List Switch) : List Word → List Item
  | [] => []
  | word :: rest =>
    match word.role with
    | .plain => .plain word.text :: ofWords known rest
    | .separator => .separator :: ofWords known rest
    | .unknown => .unknown word.text :: ofWords known rest
    | .named switch attachment =>
      match Expansion.ofSwitch known switch attachment with
      | .error misuse => [.mistake misuse]
      | .ok expansion =>
        match expansion.wanting with
        | none => .uses expansion.uses :: ofWords known rest
        | some wanting =>
          match rest with
          | ⟨value, .plain⟩ :: rest =>
            .uses (expansion.uses ++ [.valued wanting value]) :: ofWords known rest
          | _ => [.mistake (.missingValue wanting)]

end Item
end SchemeTyping.Command
