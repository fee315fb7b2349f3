import ContractAudit.Proofs.Audit.Register
import ContractAudit.Proofs.Json.Whole

/-!
# What is stored reads back

An assessment is written as a JSON value field by field, and read field by field.  Every field is
found under the name it was written with, so that each part and the whole come back as they were
(`Location.read_toJson`, `Finding.read_toJson`, `Metrics.read_toJson`, `Assessment.read_toJson`).
In particular an assessment passes all the checks of a stored one.
-/

namespace ContractAudit

/-! ### Lists and scores -/

namespace Json

theorem readItemsFrom_map {α : Type} {read : Json → Checked α} {write : α → Json}
    (h : ∀ a, read (write a) = .ok a) (position : Nat) (items : List α) :
    readItemsFrom read position (items.map write) = .ok items := by
  induction items generalizing position with
  | nil => rfl
  | cons item items ih =>
    rw [List.map_cons, readItemsFrom, h, ih]
    rfl

/-- A list comes back when its items do. -/
theorem readList_map {α : Type} {read : Json → Checked α} {write : α → Json}
    (h : ∀ a, read (write a) = .ok a) (items : List α) :
    readList read (.arr (items.map write)) = .ok items :=
  readItemsFrom_map h 0 items

end Json

theorem Assessment.readScore_int {n : Nat} (h : n ≤ 100) :
    Assessment.readScore (.int n) = .ok ⟨n, h⟩ := by
  have hnat : (n : Int).toNat ≤ 100 := by simpa using h
  have hnonneg : ¬ (n : Int) < 0 := by omega
  rw [readScore, Json.readsWhole_readInt.int, Checked.andThen]
  rw [if_neg hnonneg, dif_pos hnat]
  rfl

/-! ### The parts and the whole -/

theorem Location.read_toJson (l : Location) : Location.read l.toJson = .ok l := by
  obtain ⟨lineStart, lineEnd, snippet⟩ := l
  cases lineStart <;> cases lineEnd <;> cases snippet <;> rfl

theorem Finding.read_toJson (f : Finding) : Finding.read f.toJson = .ok f := by
  -- every field but two is read as it stands
  show ((((((Checked.pass Finding.mk).both (.ok f.id)).both (.ok f.title)).both
    ((Json.readName Severity.ofName? (.str f.severity.name)).under (.field "severity"))).both
    (.ok f.description)).both
    ((Location.read f.location.toJson).under (.field "codeContext"))).both (.ok f.suggestedFix) = _
  rw [Severity.readName_name, Location.read_toJson]
  rfl

theorem Metrics.read_toJson (m : Metrics) : Metrics.read m.toJson = .ok m := rfl

/-- **An assessment reads back as it was.** -/
theorem Assessment.read_toJson (a : Assessment) : Assessment.read a.toJson = .ok a := by
  show (((((Checked.pass _).both
    ((Assessment.readScore (.int a.riskScore)).under (.field "riskScore"))).both
    ((Json.readName Severity.ofName? (.str a.riskLevel.name)).under (.field "riskLevel"))).both
    (.ok a.summary)).both
    ((Json.readList Finding.read (.arr (a.findings.map Finding.toJson))).under
      (.field "vulnerabilities"))).both
    ((Metrics.read a.metrics.toJson).under (.field "metrics")) = _
  rw [Assessment.readScore_int a.riskScore_le, Severity.readName_name,
    Json.readList_map Finding.read_toJson, Metrics.read_toJson]
  rfl

end ContractAudit
