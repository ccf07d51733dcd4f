-- Markup: texts for the console may hold tags between square brackets, which
-- set a style and are not shown. A backslash before a tag makes it plain text.
-- A closing tag has to close a tag that is open. Names between colons are shown
-- as emoji.
import PenPlot.Console.Emoji
import PenPlot.Console.Literal
import PenPlot.Console.StyleName
import PenPlot.Text.Word

namespace PenPlot.Console

/-! ## The pieces of a text -/

/-- A piece of a marked-up text: characters that are shown, or a tag. -/
inductive Mark where
  | plain (text : List Char)
  | tag (body : List Char)
  deriving DecidableEq, Repr

/-- Whether a character may come first in a tag. -/
def startsTag (c : Char) : Bool := ('a' ≤ c && c ≤ 'z') || c == '#' || c == '/' || c == '@'

/-- The tag after an opening bracket, and what follows its closing bracket. -/
def tagAfterBracket? : List Char → Option (List Char × List Char)
  | [] => none
  | c :: rest =>
    if startsTag c then
      match rest.dropWhile fun d => d != '[' && d != ']' with
      | ']' :: after => some (c :: rest.takeWhile fun d => d != '[' && d != ']', after)
      | _ => none
    else none

/-- What follows a tag is shorter than what follows its opening bracket. -/
theorem length_of_tagAfterBracket? {cs body rest : List Char}
    (h : tagAfterBracket? cs = some (body, rest)) : rest.length < cs.length := by
  unfold tagAfterBracket? at h
  split at h
  · simp at h
  · rename_i c more
    split at h
    · split at h
      · rename_i after hdrop
        simp only [Option.some.injEq, Prod.mk.injEq] at h
        obtain ⟨_, rfl⟩ := h
        have hle := (List.dropWhile_sublist (fun d => d != '[' && d != ']') (l := more)).length_le
        rw [hdrop] at hle
        simp only [List.length_cons] at hle ⊢
        omega
      · simp at h
    · simp at h

/-- The pieces of a text, where `pending` holds the characters read since the
last tag, the latest first, and `slashes` counts the backslashes read after
them. Before a tag two backslashes stand for one, and one that is left over
makes the tag plain. -/
def marksFrom (pending : List Char) (slashes : Nat) : List Char → List Mark
  | [] => [.plain (pending.reverse ++ List.replicate slashes '\\')]
  | c :: rest =>
    if c = '\\' then marksFrom pending (slashes + 1) rest
    else
      match _found : if c = '[' then tagAfterBracket? rest else none with
      | some (body, after) =>
        [.plain pending.reverse, .plain (List.replicate (slashes / 2) '\\'),
          if slashes % 2 = 1 then .plain ('[' :: (body ++ [']'])) else .tag body] ++
          marksFrom [] 0 after
      | none => marksFrom (c :: (List.replicate slashes '\\' ++ pending)) 0 rest
termination_by cs => cs.length
decreasing_by
  · simp
  · split at _found
    · have := length_of_tagAfterBracket? _found
      simp only [List.length_cons]; omega
    · simp at _found
  · simp

/-- The pieces of a text. -/
def marks (cs : List Char) : List Mark := marksFrom [] 0 cs

/-- A plain piece without the backslash before each bracket. -/
def withoutEscapes : List Char → List Char
  | '\\' :: '[' :: rest => '[' :: withoutEscapes rest
  | c :: rest => c :: withoutEscapes rest
  | [] => []

/-- Whether a character rings, moves back or feeds; the console drops those. -/
def isDropped (c : Char) : Bool := [7, 8, 11, 12, 13].contains c.toNat

/-- The characters that a plain piece shows. -/
def shownPiece (text : List Char) : List Char :=
  (withEmoji (withoutEscapes text)).filter (!isDropped ·)

/-! ## Tags -/

/-- Why a marked-up text cannot be shown: a closing tag closes no open tag, the
argument of a tag that calls for an action is no literal, or a style names a
color by something that is no number. -/
inductive MarkupError where
  | notOpen (tag : List Char)
  | notLiteral (argument : List Char)
  | badComponent (fault : ComponentFault)
  deriving DecidableEq, Repr

/-- A tag that is open: its name, what follows its equals sign, and the number of
characters shown before it. -/
structure OpenTag where
  name : List Char
  argument? : Option (List Char)
  start : Nat
  deriving DecidableEq, Repr

/-- Whether a tag calls for an action. -/
def OpenTag.isAction (t : OpenTag) : Bool := t.name.head? == some '@'

/-- The style that a tag asks for, as it is looked up: its name and its argument. -/
def OpenTag.style (t : OpenTag) : List Char :=
  match t.argument? with
  | some argument => t.name ++ ' ' :: argument
  | none => t.name

/-- The part of the argument of an action that has to be a literal: what stands in
parentheses after a name, or, if there is no such thing, the whole. A name alone
needs none. -/
def literalOf? (argument : List Char) : Option (List Char) :=
  let argument := Text.trim argument
  let isNamePart (c : Char) : Bool := c == '.' || Text.isWordChar c
  match argument.dropWhile isNamePart with
  | [] => none
  | '(' :: rest =>
    if rest.getLast? = some ')' ∧ '\n' ∉ rest then some ('(' :: rest) else some argument
  | _ => some argument

/-- Whether an action can be called with the argument of its tag. -/
def OpenTag.callable (t : OpenTag) : Bool :=
  match t.argument? with
  | none => true
  | some argument => (literalOf? argument).all Literal.isLiteral

/-- A style on a stretch of the characters that are shown. -/
structure Span where
  start : Nat
  stop : Nat
  style : List Char
  deriving DecidableEq, Repr

/-! ## What is shown -/

/-- What has been read of a marked-up text: the characters that are shown, the
latest first, their number, the open tags, the latest first, and the stretches
that have been closed, the latest first. -/
structure Reading where
  shown : List Char := []
  length : Nat := 0
  opened : List OpenTag := []
  closed : List Span := []

/-- Closes the tag that is the first of the open ones with a property. -/
def Reading.close (r : Reading) (body : List Char) (isMeant : OpenTag → Bool) :
    Except MarkupError Reading :=
  match r.opened.find? isMeant with
  | none => .error (.notOpen body)
  | some t =>
    let opened := r.opened.erase t
    if t.isAction then
      if t.callable then .ok { r with opened := opened }
      else .error (.notLiteral (t.argument?.getD []))
    else .ok { r with opened := opened, closed := ⟨t.start, r.length, t.style⟩ :: r.closed }

/-- Reads a tag. What stands after an equals sign is not part of its name. -/
def Reading.tag (r : Reading) (body : List Char) : Except MarkupError Reading :=
  let argument? := match body.dropWhile (· != '=') with
    | [] => none
    | _ :: argument => some argument
  match body.takeWhile (· != '=') with
  | '/' :: name =>
    match Text.trim name with
    | [] => r.close body fun _ => true
    | name =>
      match styleName name with
      | .error fault => .error (.badComponent fault)
      | .ok name => r.close body fun t => t.name == name
  | name =>
    match styleName name with
    | .error fault => .error (.badComponent fault)
    | .ok name => .ok { r with opened := ⟨name, argument?, r.length⟩ :: r.opened }

/-- Reads a piece. -/
def Reading.take (r : Reading) : Mark → Except MarkupError Reading
  | .plain text =>
    let shown := shownPiece text
    .ok { r with shown := shown.reverse ++ r.shown, length := r.length + shown.length }
  | .tag body => r.tag body

/-- All stretches with a style, in the order of their starts; tags that are still
open reach to the end. -/
def Reading.spans (r : Reading) : List Span :=
  let unclosed := r.opened.map fun t => (⟨t.start, r.length, t.style⟩ : Span)
  (unclosed.reverse ++ r.closed).mergeSort fun a b => a.start ≤ b.start

/-- The fault that comes up where the style of a stretch is looked up. A style
that is not known does not matter. -/
def Span.fault? (s : Span) : Option ComponentFault :=
  match TextStyle.ofText s.style with
  | .error (.component fault) => some fault
  | _ => none

/-- What is shown of a marked-up text: its characters, and the stretches of them
that have a style. -/
def shown (text : String) : Except MarkupError (List Char × List Span) :=
  ((marks text.toList).foldlM Reading.take {}).map fun r => (r.shown.reverse, r.spans)

end PenPlot.Console
