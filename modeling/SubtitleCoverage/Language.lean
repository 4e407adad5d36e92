import SubtitleCoverage.Text.LetterCase

/-!
# Language codes

A language is tagged by a two-letter code (`de`) or by a three-letter code, and many languages have
two of the latter, a terminological (`deu`) and a bibliographic one (`ger`). All spellings are
folded onto the two-letter code; a code that is not known stands for itself, in lower case.

## Main definitions

* `Language.codes` — the three-letter codes with their two-letter codes.
* `Language.normalize` — the code onto which a spelling is folded.
* `Language.same` — whether two spellings name one language.
-/

namespace SubtitleCoverage.Language

open Text

/-- The three-letter codes and the two-letter codes they are folded onto. -/
def codes : List (String × String) := [
  ("alb", "sq"), ("sqi", "sq"), ("ara", "ar"), ("arm", "hy"), ("hye", "hy"), ("baq", "eu"),
  ("eus", "eu"), ("ben", "bn"), ("bos", "bs"), ("bul", "bg"), ("bur", "my"), ("mya", "my"),
  ("cat", "ca"), ("chi", "zh"), ("zho", "zh"), ("hrv", "hr"), ("cze", "cs"), ("ces", "cs"),
  ("dan", "da"), ("dut", "nl"), ("nld", "nl"), ("eng", "en"), ("est", "et"), ("fil", "tl"),
  ("tgl", "tl"), ("fin", "fi"), ("fre", "fr"), ("fra", "fr"), ("geo", "ka"), ("kat", "ka"),
  ("ger", "de"), ("deu", "de"), ("gre", "el"), ("ell", "el"), ("heb", "he"), ("hin", "hi"),
  ("hun", "hu"), ("ice", "is"), ("isl", "is"), ("ind", "id"), ("ita", "it"), ("jpn", "ja"),
  ("kor", "ko"), ("lav", "lv"), ("lit", "lt"), ("mac", "mk"), ("mkd", "mk"), ("may", "ms"),
  ("msa", "ms"), ("nor", "no"), ("nob", "nb"), ("nno", "nn"), ("per", "fa"), ("fas", "fa"),
  ("pol", "pl"), ("por", "pt"), ("rum", "ro"), ("ron", "ro"), ("rus", "ru"), ("srp", "sr"),
  ("slo", "sk"), ("slk", "sk"), ("slv", "sl"), ("spa", "es"), ("swe", "sv"), ("tam", "ta"),
  ("tel", "te"), ("tha", "th"), ("tur", "tr"), ("ukr", "uk"), ("urd", "ur"), ("vie", "vi"),
  ("wel", "cy"), ("cym", "cy")]

/-- The code onto which a spelling is folded. -/
def normalize (code : String) : String := (codes.lookup (lower code)).getD (lower code)

/-- Whether two spellings name one language. -/
def same (a b : String) : Bool := normalize a == normalize b

end SubtitleCoverage.Language
