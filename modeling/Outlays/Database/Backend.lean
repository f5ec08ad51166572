import Outlays.Database.Answering
import Outlays.Inquiry.Basic

/-!
# Stores with a database

A database answers the questions about recipients, agencies, accounts and reference data. What it
has nothing to say about, the search index and the response cache, is left to the stores behind
it.
-/

namespace Outlays.Database

variable {δ σ : Type}

/-- Stores with a database before them, if there is one. The state of each is kept apart. -/
def inFrontOf (b : Backend σ) (database : Option (Connection δ)) : Backend (δ × σ) where
  answer q s :=
    match database.bind fun c => answer? c q with
    | some answering =>
      let (result, d) := answering.run s.1
      (result, (d, s.2))
    | none =>
      let (result, rest) := b.answer q s.2
      (result, (s.1, rest))

/-- Without a database all is left to the stores. -/
@[simp] theorem inFrontOf_none (b : Backend σ) (q : Question) (s : δ × σ) :
    ((inFrontOf b none).answer q s).1 = (b.answer q s.2).1 := rfl

/-- What the stores answer leaves the database as it was. -/
theorem inFrontOf_of_none (b : Backend σ) (c : Connection δ) (q : Question) (s : δ × σ)
    (h : answer? c q = none) :
    (inFrontOf b (some c)).answer q s = ((b.answer q s.2).1, (s.1, (b.answer q s.2).2)) := by
  simp only [inFrontOf, Option.bind_some, h]

end Outlays.Database
