import DocSync.Toml.Scalar

/-! # TOML values

  A document is a table. Tables keep their members in the order in which they
  are first written, each name once.
-/

namespace DocSync

inductive Toml where
  | scalar (value : Toml.Scalar)
  | array (items : List Toml)
  | table (members : List (String × Toml))
  deriving Repr, Inhabited

end DocSync
