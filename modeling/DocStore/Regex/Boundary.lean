import DocStore.Regex.Property
/-!
# Boundaries in text

Each character has one role in finding the boundaries between graphemes, one for words and one for
sentences. The roles are listed with their names in lower case and without separators; characters
without a role are not listed.
-/

namespace DocStore.Regex

namespace Boundary

open Rule Property

/-! ## Graphemes -/

def graphemeExtension : Rule := graphemeExtend ++ emojiModifier

/-- Line separators and what controls other characters without being part of them. -/
def graphemeControl : Rule :=
  categories ["zl", "zp", "cc", "cf"] ++ inter unassigned defaultIgnorable
    - table ["a d 200c-200d e0020-e007f"] - prependedConcatenationMark

/-- Marks that take room of their own, but for the vowel signs and tones that stand alone. -/
def spacingMark : Rule :=
  categories ["mc"] - graphemeExtension
    - table [
      "102b-102c 1038 1062-1064 1067-106d 1083 1087-108c 108f 109a-109c 1a61 1a63-1a64 aa7b",
      "aa7d 11720-11721"]
    ++ table ["e33 eb3"]

def prepended : Rule :=
  prependedConcatenationMark
    ++ table ["d4e 111c2-111c3 113d1 1193f 11941 11a3a 11a84-11a89 11d46 11f02"]

/-- The syllables of Hangul without a final consonant. -/
def openSyllable : Rule := table ["ac00-d788/1c"]

def grapheme : List Property :=
  [⟨["cr"], table ["d"]⟩, ⟨["lf"], table ["a"]⟩, ⟨["control", "cn"], graphemeControl⟩,
   ⟨["extend", "ex"], graphemeExtension⟩, ⟨["zwj"], table ["200d"]⟩,
   ⟨["regionalindicator", "ri"], regionalIndicator⟩, ⟨["prepend", "pp"], prepended⟩,
   ⟨["spacingmark", "sm"], spacingMark⟩, ⟨["l"], table ["1100-115f a960-a97c"]⟩,
   ⟨["v"], table ["1160-11a7 d7b0-d7c6 16d63 16d67-16d6a"]⟩,
   ⟨["t"], table ["11a8-11ff d7cb-d7fb"]⟩, ⟨["lv"], openSyllable⟩,
   ⟨["lvt"], table ["ac00-d7a3"] - openSyllable⟩]

/-! ## Words -/

def wordExtension : Rule := graphemeExtend ++ categories ["mc"] ++ emojiModifier

def hebrewLetter : Rule := inter (scripts ["hebr"]) (categories ["lo"])

def katakana : Rule := scripts ["kana"] ++ table ["3031-3035 309b-309c 30a0 30fc ff70"]

/-- Scripts that are written without spaces between words. -/
def unspaced : Rule :=
  scripts ["thai", "laoo", "mymr", "khmr", "lana", "tale", "talu", "tavt", "ahom"]

/-- Letters of words, and signs that belong to a word like a letter. -/
def wordLetter : Rule :=
  alphabetic - ideographic - katakana - scripts ["hira"] - unspaced - wordExtension - hebrewLetter
    ++ table [
      "2c2-2c5 2d2-2d7 2de-2df 2e5-2eb 2ed 2ef-2ff 55a-55c 55e 58a 5f3 70f a708-a716 a720-a721",
      "a789-a78a ab5b"]

def midLetter : Rule := table ["3a b7 387 55f 5f4 2027 fe13 fe55 ff1a"]

def midNumber : Rule :=
  table ["2c 3b 37e 589 60c-60d 66c 7f8 2044 fe50 fe54 ff0c ff1b"]

def midNumberOrLetter : Rule := table ["2e 2018-2019 2024 fe52 ff07 ff0e"]

def word : List Property :=
  [⟨["cr"], table ["d"]⟩, ⟨["lf"], table ["a"]⟩,
   ⟨["newline", "nl"], table ["b-c 85 2028-2029"]⟩, ⟨["extend"], wordExtension⟩,
   ⟨["zwj"], table ["200d"]⟩, ⟨["regionalindicator", "ri"], regionalIndicator⟩,
   ⟨["format", "fo"],
    categories ["cf"] - table ["200b-200d e0020-e007f"] - prependedConcatenationMark⟩,
   ⟨["katakana", "ka"], katakana⟩, ⟨["hebrewletter", "hl"], hebrewLetter⟩,
   ⟨["aletter", "le"], wordLetter⟩, ⟨["singlequote", "sq"], table ["27"]⟩,
   ⟨["doublequote", "dq"], table ["22"]⟩, ⟨["midnumlet", "mb"], midNumberOrLetter⟩,
   ⟨["midletter", "ml"], midLetter⟩, ⟨["midnum", "mn"], midNumber⟩,
   ⟨["numeric", "nu"],
    categories ["nd"] ++ prependedConcatenationMark - table ["70f"] ++ table ["66b 19da"]⟩,
   ⟨["extendnumlet", "ex"], categories ["pc"] ++ table ["202f"]⟩,
   ⟨["wsegspace"], categories ["zs"] - table ["a0 2007 202f"]⟩]

/-! ## Sentences -/

def sentenceExtension : Rule := graphemeExtend ++ categories ["mc"] ++ table ["200d"]

/-- Lower case as far as it can begin no sentence. -/
def sentenceLower : Rule := lowercase - graphemeExtend - table ["10d0-10fa 10fd-10ff"]

def sentenceUpper : Rule := uppercase ++ titlecase - table ["1c90-1cba 1cbd-1cbf"]

def fullStop : Rule := table ["2e 2024 fe52 ff0e"]

def sentenceContinue : Rule :=
  table [
    "2c-2d 3a-3b 37e 55d 60c-60d 7f8 1802 1808 2013-2014 3001 fe10-fe11 fe13-fe14 fe31-fe32",
    "fe50-fe51 fe54-fe55 fe58 fe63 ff0c-ff0d ff1a-ff1b ff64"]

def sentence : List Property :=
  [⟨["cr"], table ["d"]⟩, ⟨["lf"], table ["a"]⟩, ⟨["sep", "se"], table ["85 2028-2029"]⟩,
   ⟨["extend", "ex"], sentenceExtension⟩,
   ⟨["format", "fo"],
    categories ["cf"] - table ["200c-200d e0020-e007f"] - prependedConcatenationMark
      ++ table ["70f"]⟩,
   ⟨["sp"], whiteSpace - table ["a d 85 2028-2029"]⟩, ⟨["lower", "lo"], sentenceLower⟩,
   ⟨["upper", "up"], sentenceUpper⟩,
   ⟨["oletter", "le"],
    alphabetic - sentenceLower - sentenceUpper - sentenceExtension ++ table ["5f3"]⟩,
   ⟨["numeric", "nu"],
    categories ["nd"] ++ prependedConcatenationMark - table ["70f"] ++ table ["66b-66c 19da"]⟩,
   ⟨["aterm", "at"], fullStop⟩, ⟨["scontinue", "sc"], sentenceContinue⟩,
   ⟨["sterm", "st"], sentenceTerminal - fullStop⟩,
   ⟨["close", "cl"],
    categories ["ps", "pe", "pi", "pf"]
      ++ table ["22 27 275b-2760 2e00-2e01 2e06-2e08 2e0b 1f676-1f678"]⟩]

end Boundary

end DocStore.Regex
