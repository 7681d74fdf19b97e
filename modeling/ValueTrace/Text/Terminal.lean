/-!
# Terminal controls

Texts that go to something other than a terminal are written without control sequences: an escape
character with what follows up to the end of the sequence, and other control characters that are no
white space.

## Main definitions

* `Control` : where in a control sequence a text stands.
* `withoutControls` : a text without control sequences.
-/

namespace ValueTrace.Text

/-- Where in a control sequence a text stands. -/
inductive Control where
  | outside
  /-- After an escape character. -/
  | escape
  /-- After an escape character and an intermediate one. -/
  | intermediate
  /-- In a sequence with parameters, which a letter or another mark ends. -/
  | parameters
  /-- In a text that is a message to the terminal; a bell may end it. -/
  | message (endsAtBell : Bool)
deriving DecidableEq, Repr

/-- A blank or a line end among the control characters. -/
def isBlankControl (c : Char) : Bool := c = '\t' || c = '\n' || c = '\x0c' || c = '\r'

/-- What comes after a character, and whether the character is kept. -/
def Control.next (state : Control) (c : Char) : Control × Bool :=
  let n := c.toNat
  if n = 0x1B then (.escape, false)
  else if n = 0x18 ∨ n = 0x1A then (.outside, false)
  else
    match state with
    | .message endsAtBell => (if endsAtBell && n = 7 then .outside else state, false)
    | .outside => (.outside, isBlankControl c || 0x20 ≤ n && n ≠ 0x7F)
    | _ =>
      if isBlankControl c then (.outside, true)
      else if n < 0x20 ∨ 0x7F ≤ n then (state, false)
      else
        match state with
        | .parameters => (if n < 0x40 then .parameters else .outside, false)
        | .intermediate => (if n < 0x30 then .intermediate else .outside, false)
        | _ =>
          if n < 0x30 then (.intermediate, false)
          else if c = '[' then (.parameters, false)
          else if c = ']' then (.message true, false)
          else if c = 'P' ∨ c = 'X' ∨ c = '^' ∨ c = '_' then (.message false, false)
          else (.outside, false)

/-- The characters of a text that are kept, from a place in a control sequence. -/
def keepOutside : Control → List Char → List Char
  | _, [] => []
  | state, c :: rest =>
    let (next, kept) := state.next c
    if kept then c :: keepOutside next rest else keepOutside next rest

/-- A text without control sequences. -/
def withoutControls (text : String) : String := String.ofList (keepOutside .outside text.toList)

end ValueTrace.Text
