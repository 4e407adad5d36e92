import SubtitleCoverage.Text.Decomposition
import SubtitleCoverage.Text.LetterCase
import SubtitleCoverage.Text.Percent

/-!
# Names of servers

The name of a server means the same however its letters are drawn: in another case, full-width,
circled, raised or joined. Characters that a display leaves out mean nothing. What is left has to
be free of the characters that part an address.

## Main definitions

* `hostLetters` — what a character means in the name of a server.
* `hostName?` — the name that a text means.
-/

namespace SubtitleCoverage.Http

open Text

/-! ### One character -/

/-- The code points that mean nothing in the name of a server: soft hyphens, fillers, invisible
operators and variation selectors. The joiners are not among them, since words in some scripts
differ by one, nor are the marks that turn the direction of writing. -/
def silentRanges : List (Nat × Nat) := [
  (0xAD, 0xAD), (0x34F, 0x34F), (0x115F, 0x1160), (0x17B4, 0x17B5), (0x180B, 0x180F),
  (0x200B, 0x200B), (0x2060, 0x2064), (0x206A, 0x206F), (0x3164, 0x3164), (0xFE00, 0xFE0F),
  (0xFEFF, 0xFEFF), (0xFFA0, 0xFFA0), (0x1BCA0, 0x1BCA3), (0x1D173, 0x1D17A), (0xE0100, 0xE01EF)]

/-- The full stops that part names: the ASCII one, the ideographic one and their other widths. -/
def openStops : List Char := ['.', '。', '．', '｡']

/-- What a character means in the name of a server: the simpler characters that it stands for, in
lower case. Every full stop parts names as the ASCII one does. -/
def hostLetters (c : Char) : List Char :=
  if inRanges silentRanges c.toNat then []
  else (decompose c).flatMap fun d => if openStops.contains d then ['.'] else lowerChar d

/-- Whether a character is no full stop, but one is a part of what it stands for, as in `㏂`, or all
of it, as in a leader or in a vertical form. -/
def hidesStop (c : Char) : Bool :=
  !openStops.contains c && (decompose c).any openStops.contains

/-- Whether a character cannot be in the name of a server. -/
def isForbidden (c : Char) : Bool :=
  c.toNat ≤ 0x20 || c.toNat = 0x7F || "#/:<>?@[\\]^|%".toList.contains c

/-! ### Names -/

/-- The name of a server that some characters mean. An address in brackets stays as it is. -/
def hostName? (cs : List Char) : Option String :=
  if cs.head? = some '[' then some (String.ofList cs)
  else
    let shown := readUtf8 (percentDecode (utf8Bytes (String.ofList cs)))
    let name := shown.flatMap hostLetters
    if name = [] || shown.any hidesStop || name.any isForbidden then none
    else some (String.ofList name)

end SubtitleCoverage.Http
