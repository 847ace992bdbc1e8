import CommonExpr.Text.Property

/-!
Letters and numbers of the current standard, which knows more of them than the tables
of properties do.
-/

namespace CommonExpr.Text

def alphabetic : CharSet := (propertyNamed? "alphabetic").getD .empty

def numeric : CharSet := categorySet "N"

/-- Letters that the tables of properties do not have yet. -/
def newLetters : CharSet := .ofTable [
  "88f c5c cdc a7ce-a7cf a7d2 a7d4 a7f1 10940-10959 10ec5-10ec7 10efa-10efb 11b60-11b67",
  "11db0-11ddb 16ea0-16eb8 16ebb-16ed3 16ff2-16ff6 187f8-187ff 18d09-18d1e 18d80-18df2",
  "1e6c0-1e6de 1e6e0-1e6f5 1e6fe-1e6ff 2b73a-2b73f 2cea2-2cead 323b0-33479"]

/-- Numbers that the tables of properties do not have yet. -/
def newNumbers : CharSet := .ofTable ["11de0-11de9 16ff4-16ff6"]

/-- Whether a character is a letter, or written like one. -/
def isLetter (c : Char) : Bool := alphabetic.holds c.toNat || newLetters.holds c.toNat

/-- Whether a character is a number, digit or not. -/
def isNumber (c : Char) : Bool := numeric.holds c.toNat || newNumbers.holds c.toNat

end CommonExpr.Text
