import JobHerald.Failure

/-!
# Signatures

A callee takes arguments by name.  Its signature says which names a call may use, and
which it must not leave out.  The first name that cannot be used decides; only a call
without such names is asked for those that lack.

## Main definitions

* `Signature` — the names of the arguments of a callee.
* `Signature.loose`, `Signature.strict` — signatures that take any further name, and none.
* `Signature.fault?` — what is wrong with the names of some arguments.
-/

namespace JobHerald

/-- The names of the arguments of a callee. -/
structure Signature where
  /-- The name of the callee in messages. -/
  callee : String
  /-- The arguments that every call has already. -/
  filled : List String
  /-- The arguments that a call must not leave out. -/
  required : List String
  /-- The arguments that a call may leave out. -/
  further : List String
  /-- Whether a call may use any other name too. -/
  isOpen : Bool
  deriving DecidableEq, Repr

namespace Signature

/-- The signature that takes any name, but for the arguments that are there already. -/
def loose (callee : String) (filled : List String) : Signature := ⟨callee, filled, [], [], true⟩

/-- The signature without arguments beside those that are there already. -/
def strict (callee : String) (filled : List String) : Signature := ⟨callee, filled, [], [], false⟩

/-- What is wrong with the name of an argument. -/
def nameFault? (s : Signature) (name : String) : Option Failure :=
  if s.filled.contains name then some (.filledArgument s.callee name)
  else if s.isOpen || (s.required ++ s.further).contains name then none
  else some (.unexpectedArgument s.callee name)

/-- The names that some arguments lack. -/
def lacking (s : Signature) (args : Fields) : List String :=
  s.required.filter fun name => !Fields.has name args

/-- What is wrong with the names of some arguments. -/
def fault? (s : Signature) (args : Fields) : Option Failure :=
  match args.names.findSome? s.nameFault? with
  | some f => some f
  | none =>
      match s.lacking args with
      | [] => none
      | names => some (.missingArguments s.callee names)

end Signature

end JobHerald
