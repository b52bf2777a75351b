import TokenForest.Toml.Reader

/-!
# Numerals beyond the limit

A number with too many decimal digits is no value, and what stands behind it is not looked at.  So a
document whose first key has such a number is not read, though nothing in it is wrong.
-/

namespace TokenForest.Toml

variable {count : Nat}

namespace Reader

variable
    {mishap : Mishap}
    {rest : List Char}

end Reader

end TokenForest.Toml
