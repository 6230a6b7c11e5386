/-!
# Machine words

How many numbers the words of the usual widths tell apart. An unsigned word is a number below such a
count, a signed one lies between the negated half of it and the half.
-/

namespace AnalyzerClient.Word

/-- The count of words of 32 bits. -/
abbrev count32 : Nat := 0x100000000

/-- Half the count of words of 32 bits. -/
abbrev half32 : Nat := 0x80000000

/-- The count of words of 64 bits. -/
abbrev count64 : Nat := 0x10000000000000000

/-- Half the count of words of 64 bits. -/
abbrev half64 : Nat := 0x8000000000000000

end AnalyzerClient.Word
