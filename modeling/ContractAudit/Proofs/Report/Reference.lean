import ContractAudit.Report.Reference

/-!
# Reading an id back

The id of a finding is the key of its category, a hyphen and a number.  A number in decimal has no
hyphen, so the last hyphen of an id is the one in front of the number, however many the key has.

* `beforeLastHyphen_append` -- what stands in front of the last hyphen;
* `Finding.categoryKey_eq` -- the key is read back from the id;
* `number_eq_of_id_eq` -- ids with different numbers differ.
-/

namespace ContractAudit

theorem beforeLastHyphen_append (s : Text) {tail : Text} (h : '-' ∉ tail) :
    beforeLastHyphen (s ++ '-' :: tail) = s := by
  have hpass : ∀ c ∈ tail.reverse, (c != '-') = true := by
    intro c hc
    rw [bne_iff_ne]
    rintro rfl
    exact h (List.mem_reverse.1 hc)
  have hreverse : (s ++ '-' :: tail).reverse = tail.reverse ++ '-' :: s.reverse := by simp
  have hdrop : (s ++ '-' :: tail).reverse.dropWhile (· != '-') = '-' :: s.reverse := by
    rw [hreverse, List.dropWhile_append_of_pos hpass, List.dropWhile_cons_of_neg (by simp)]
  rw [beforeLastHyphen, hdrop]
  exact List.reverse_reverse s

theorem hyphen_not_mem_toString (n : Nat) : '-' ∉ (toString n).toList := by
  intro h
  rw [Nat.toString_eq_ofList_toDigits, String.toList_ofList] at h
  have hdigit := Nat.isDigit_of_mem_toDigits (by decide) (by decide) h
  revert hdigit
  decide

theorem toList_id (key : String) (n : Nat) :
    (key ++ "-" ++ toString n).toList = key.toList ++ '-' :: (toString n).toList := by
  simp [String.toList_append]

/-- **The key is read back** from the id of a finding, whatever hyphens it has. -/
theorem Finding.categoryKey_eq {f : Finding} {key : String} {n : Nat}
    (h : f.id = key ++ "-" ++ toString n) : f.categoryKey = key := by
  rw [Finding.categoryKey, h, toList_id, beforeLastHyphen_append _ (hyphen_not_mem_toString n),
    String.ofList_toList]

theorem number_eq_of_id_eq {key key' : String} {n m : Nat}
    (h : key ++ "-" ++ toString n = key' ++ "-" ++ toString m) : n = m := by
  have hlists := congrArg String.toList h
  rw [toList_id, toList_id] at hlists
  have hkeys := congrArg beforeLastHyphen hlists
  rw [beforeLastHyphen_append _ (hyphen_not_mem_toString n),
    beforeLastHyphen_append _ (hyphen_not_mem_toString m)] at hkeys
  rw [hkeys, List.append_cancel_left_eq, List.cons.injEq, Nat.toString_eq_ofList_toDigits,
    Nat.toString_eq_ofList_toDigits, String.toList_ofList, String.toList_ofList] at hlists
  calc n = Nat.ofDigitChars 10 (Nat.toDigits 10 n) 0 := Nat.ofDigitChars_ten_toDigits.symm
    _ = Nat.ofDigitChars 10 (Nat.toDigits 10 m) 0 := by rw [hlists.2]
    _ = m := Nat.ofDigitChars_ten_toDigits

end ContractAudit
