import Estree.Unicode.Property

/-!
# Letters of the newest edition

The names of groups in patterns, and the change to small letters, go by edition 17 of the character
database. It has the letters and numbers of edition 16 and some more; one character is no longer
among those that have a case.
-/

namespace Estree.Unicode

/-- The letters that edition 17 added. -/
def addedLetters : CodeSet := .ofText
  ["88F C5C CDC A7CE-A7CF A7D2 A7D4 A7F1 10940-10959 10EC5-10EC7 10EFA-10EFB 11B60-11B67",
   "11DB0-11DDB 16EA0-16EB8 16EBB-16ED3 16FF2-16FF6 187F8-187FF 18D09-18D1E 18D80-18DF2",
   "1E6C0-1E6DE 1E6E0-1E6F5 1E6FE-1E6FF 2B73A-2B73F 2CEA2-2CEAD 323B0-33479"]

/-- The numbers that edition 17 added. -/
def addedNumbers : CodeSet := .ofText ["11DE0-11DE9 16FF4-16FF6"]

/-- The characters with a case that edition 17 added. -/
def addedCased : CodeSet := .ofText ["A7CE-A7CF A7D2 A7D4 A7F1 16EA0-16EB8 16EBB-16ED3"]

/-- The marks, and other characters that do not count between letters, that edition 17 added. -/
def addedIgnorable : CodeSet := .ofText
  ["1ACF-1ADD 1AE0-1AEB A7F1 10EC5 10EFA-10EFB 11B60 11B62-11B64 11B66 11DD9 16FF2-16FF3 1E6E3",
   "1E6E6 1E6EE-1E6EF 1E6F5 1E6FF"]

/-- Letters. -/
def letters : CodeSet := (property "alphabetic").union addedLetters

/-- Letters and numbers. -/
def alphanumerics : CodeSet := .unions [letters, categories ["Nd", "Nl", "No"], addedNumbers]

/-- Characters that have a case. -/
def cased : CodeSet := ((property "cased").union addedCased).diff (.singleton 0x295)

/-- Characters that do not count where a word is looked at for its end. -/
def caseIgnorable : CodeSet := (property "caseignorable").union addedIgnorable

end Estree.Unicode
