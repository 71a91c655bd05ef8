import Phrasebook.Plural.Rule
import Phrasebook.Ranking
import Phrasebook.Text.Basic

/-!
# Phrasebook.Plural.Locales

Which plural rule a locale follows. Codes are compared exactly; a code that is in no family follows
the rule with a single form.
-/

namespace Phrasebook
namespace Plural

/-- The locales of each rule. -/
def families : List (Rule × List String) :=
  [(.single,
      ["az", "bo", "dz", "id", "ja", "jv", "ka", "km", "kn", "ko", "ms", "th", "tr", "vi", "zh"]),
   (.oneOther,
      ["af", "bn", "bg", "ca", "da", "de", "el", "en", "eo", "es", "et", "eu", "fa", "fi", "fo",
       "fur", "fy", "gl", "gu", "ha", "he", "hu", "is", "it", "ku", "lb", "ml", "mn", "mr", "nah",
       "nb", "ne", "nl", "nn", "no", "om", "or", "pa", "pap", "ps", "pt", "so", "sq", "sv", "sw",
       "ta", "te", "tk", "ur", "zu"]),
   (.zeroOneOther,
      ["am", "bh", "fil", "fr", "gun", "hi", "hy", "ln", "mg", "nso", "xbr", "ti", "wa"]),
   (.eastSlavic, ["be", "bs", "hr", "ru", "sr", "uk"]),
   (.czech, ["cs", "sk"]),
   (.irish, ["ga"]),
   (.lithuanian, ["lt"]),
   (.slovenian, ["sl"]),
   (.macedonian, ["mk"]),
   (.maltese, ["mt"]),
   (.latvian, ["lv"]),
   (.polish, ["pl"]),
   (.welsh, ["cy"]),
   (.romanian, ["ro"]),
   (.arabic, ["ar"])]

/-- The rule of the family that a locale belongs to. -/
def ruleOf? (locale : Text) : Option Rule :=
  (families.find? fun (_, codes) => codes.contains (String.ofList locale)).map (·.1)

/-- The rule that a locale follows. -/
def ruleOf (locale : Text) : Rule :=
  (ruleOf? locale).getD .single

/-- The plural form for a count in a locale. -/
def position (count : Int) (locale : Text) : Nat :=
  (ruleOf locale).position count

/-- The number of plural forms of a locale. -/
def formCount (locale : Text) : Nat :=
  (ruleOf locale).forms

/-- The locales that belong to a family, in the order of their codes. -/
def supportedLocales : List String :=
  Ranking.ranked (fun a b => a ≤ b) (families.flatMap (·.2))

theorem position_lt_formCount (count : Int) (locale : Text) :
    position count locale < formCount locale :=
  Rule.position_lt _ count

end Plural
end Phrasebook
