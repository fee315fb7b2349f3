import ContractAudit.Json.Checked

/-!
# Readers of whole numbers

Which values count as whole numbers, and above all which strings, is for a reader to say.  What is
proved of audits and of stored assessments rests on a few facts of the reader only.

* `Json.ReadsWhole` -- these facts, of any reader;
* `Json.readsWhole_readInt` -- the reader that is used has them;
* `Json.exists_of_readNullable` -- a value that may be missing.
-/

namespace ContractAudit.Json

/-- What is needed of a reader of whole numbers.  Nothing is said about the strings that it reads. -/
structure ReadsWhole (read : Json → Checked Int) : Prop where
  int : ∀ n, read (.int n) = .ok n
  bool : ∀ b, read (.bool b) = .ok (if b then 1 else 0)
  /-- Of the numbers with a fraction only whole ones are read. -/
  whole?_eq : ∀ {x n}, read (.real x) = .ok n → x.whole? = some n
  not_arr : ∀ items n, read (.arr items) ≠ .ok n
  not_obj : ∀ fields n, read (.obj fields) ≠ .ok n

theorem readsWhole_readInt : ReadsWhole readInt where
  int _ := rfl
  bool _ := rfl
  whole?_eq {x n} h := by
    simp only [readInt] at h
    split at h
    · rename_i hwhole
      split at h
      · cases h
        exact hwhole
      · cases h
    · cases h
    · cases h
  not_arr _ _ := nofun
  not_obj _ _ := nofun

/-- What is read of a value that may be missing, if it is not. -/
theorem exists_of_readNullable {α : Type} {read : Json → Checked α} {value : Json}
    {result : Option α} (h : readNullable read value = .ok result) (hvalue : value ≠ .null) :
    ∃ a, read value = .ok a ∧ result = some a := by
  rw [readNullable] at h
  · split at h
    · rename_i a hread
      exact ⟨a, hread, (Except.ok.inj h).symm⟩
    · cases h
  · exact hvalue

end ContractAudit.Json
