/-!
# Kinds of compile action

The mnemonics that mark a compile action, and the extensions of the sources of each kind.
-/

namespace CompileCommands

/-- A kind of compile action. -/
inductive Kind where
  /-- C and C++. -/
  | cpp
  /-- Objective-C and Objective-C++. -/
  | objc
  /-- CUDA. -/
  | cuda
  deriving DecidableEq, Repr

namespace Kind

/-- Every kind, in the order in which the query names them. -/
def all : List Kind := [.cpp, .objc, .cuda]

/-- The short name of a kind, which its mnemonic starts with. -/
def name : Kind → String
  | .cpp => "Cpp"
  | .objc => "Objc"
  | .cuda => "Cuda"

/-- The mnemonic of the actions of a kind. -/
def mnemonic : Kind → String
  | .cpp => "CppCompile"
  | .objc => "ObjcCompile"
  | .cuda => "CudaCompile"

/-- The kind of the actions with a mnemonic. -/
def ofMnemonic? (mnemonic : String) : Option Kind :=
  all.find? (·.mnemonic == mnemonic)

/-- The extensions of the sources of a kind, without the dot. -/
def extensions : Kind → List String
  | .cpp => ["c", "cc", "cpp", "cxx", "c++"]
  | .objc => ["c", "cc", "cpp", "cxx", "c++", "m", "mm"]
  | .cuda => ["cu", "cc", "cpp"]

@[simp] theorem ofMnemonic?_mnemonic (kind : Kind) : ofMnemonic? kind.mnemonic = some kind := by
  cases kind <;> decide

/-- A mnemonic has a kind exactly when it is the mnemonic of that kind. -/
theorem ofMnemonic?_eq_some_iff {mnemonic : String} {kind : Kind} :
    ofMnemonic? mnemonic = some kind ↔ mnemonic = kind.mnemonic := by
  constructor
  · intro h
    have found := List.find?_some h
    exact (by simpa using found : kind.mnemonic = mnemonic).symm
  · rintro rfl
    exact ofMnemonic?_mnemonic kind

end Kind

end CompileCommands
