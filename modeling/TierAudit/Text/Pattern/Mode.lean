import TierAudit.Text.Pattern

/-!
# Text — patterns in use

Which patterns can be matched against a text.  It is done without tables of Unicode, in which letter
case, categories and words are looked up; so in Unicode mode all that asks for them is refused.  In
byte mode nothing may match part of a character, so all that reaches beyond ASCII is refused.
-/

namespace TierAudit.Text

/-- The flags that decide on what can be matched. -/
structure Mode where
  ignoresCase : Bool
  isUnicode : Bool
  deriving DecidableEq, Repr

namespace Mode

/-- The mode in which a pattern begins. -/
def initial : Mode := ⟨false, true⟩

/-- The mode after flags are set. -/
def set (mode : Mode) (flags : Flags) : Mode :=
  ⟨(flags.state? .ignoresCase).getD mode.ignoresCase, (flags.state? .unicode).getD mode.isUnicode⟩

end Mode

/-- The last character of ASCII. -/
def lastAscii : Char := '\x7f'

namespace Literal

def isAscii (c : Literal) : Bool := c.char ≤ lastAscii

/-- Whether a character can be matched. -/
def isUsable (mode : Mode) (c : Literal) : Bool :=
  if mode.isUnicode then !mode.ignoresCase else c.isAscii || !c.isByte

/-- Whether a character can be matched as one of a set. -/
def isUsableInSet (mode : Mode) (c : Literal) : Bool :=
  if mode.isUnicode then !mode.ignoresCase else c.isAscii

end Literal

namespace CharSet

mutual

/-- Whether a set of characters can be matched. -/
def isUsable (mode : Mode) : CharSet → Bool
  | nothing => true
  | literal c => c.isUsableInSet mode
  | range first last => first.isUsableInSet mode && last.isUsableInSet mode
  | named isNegated _ => if mode.isUnicode then !mode.ignoresCase else !isNegated
  | shorthand isNegated => !mode.isUnicode && !isNegated
  | category _ => false
  | bracketed isNegated set => (mode.isUnicode || !isNegated) && set.isUsable mode
  | union parts => areUsable mode parts
  | combined _ a b => a.isUsable mode && b.isUsable mode

def areUsable (mode : Mode) : List CharSet → Bool
  | [] => true
  | set :: rest => set.isUsable mode && areUsable mode rest

end

end CharSet

namespace Pattern

mutual

/-- The mode behind a pattern that is begun in some mode, if the pattern can be matched. -/
def mode? (mode : Mode) : Pattern → Option Mode
  | nothing => some mode
  | literal c => if c.isUsable mode then some mode else none
  | any => if mode.isUnicode then some mode else none
  | edge => some mode
  | wordEdge => if mode.isUnicode then none else some mode
  | shorthand isNegated => if !mode.isUnicode && !isNegated then some mode else none
  | category _ => none
  | oneOf isNegated set =>
    if (mode.isUnicode || !isNegated) && set.isUsable mode then some mode else none
  | repeated part => mode? mode part
  | group _ flags part => (mode? (mode.set flags) part).map fun _ => mode
  | setting flags => some (mode.set flags)
  | sequence parts => modeOfAll? mode parts
  | choice branches => modeOfAll? mode branches

/-- The mode behind patterns one after another. -/
def modeOfAll? (mode : Mode) : List Pattern → Option Mode
  | [] => some mode
  | part :: rest => (mode? mode part).bind fun mode => modeOfAll? mode rest

end

/-- Patterns are nested at most so deep. -/
def maxDepth : Nat := 250

/-- Whether a pattern can be matched: nothing in it is refused, it is not too deep, and no two of
its groups have the same name. -/
def isUsable (pattern : Pattern) : Bool :=
  (mode? .initial pattern).isSome && pattern.depth ≤ maxDepth && pattern.names.Nodup

end Pattern

end TierAudit.Text
