import Mathlib.Data.List.Nodup
import Mathlib.Tactic.Common

/-! # Logs whose entries are justified by what comes before them

`Justified P log` says of every entry of a log that it stands in the relation `P` to the entries
before it: a message was announced, a resource was reserved, a budget was kept.  Such a property
is checked where entries are appended, with the log at that time at hand.

* `justified_append` takes the entries of one step and those before it apart.
* `Justified.of_forall` is for steps whose entries need no justification. -/

namespace History

variable {α β : Type} {P : List α → α → Prop}

/-- Every entry is related to the entries before it. -/
def Justified (P : List α → α → Prop) (log : List α) : Prop :=
  ∀ before entry after, log = before ++ entry :: after → P before entry

theorem justified_nil : Justified P [] := by
  intro before entry after h
  simp at h

theorem justified_append {log entries : List α} :
    Justified P (log ++ entries)
      ↔ Justified P log ∧ Justified (fun before entry => P (log ++ before) entry) entries := by
  constructor
  · intro h
    refine ⟨fun before entry after hlog => ?_, fun before entry after hentries => ?_⟩
    · refine h before entry (after ++ entries) ?_
      rw [hlog, List.append_assoc, List.cons_append]
    · refine h (log ++ before) entry after ?_
      rw [hentries, List.append_assoc]
  · rintro ⟨hlog, hentries⟩ before entry after h
    rcases List.append_eq_append_iff.mp h with ⟨rest, hbefore, hrest⟩ | ⟨rest, hleft, hrest⟩
    · rw [hbefore]
      exact hentries rest entry after hrest
    · cases rest with
      | nil =>
          rw [List.append_nil] at hleft
          rw [← hleft]
          have hfirst := hentries [] entry after hrest.symm
          simpa using hfirst
      | cons first rest =>
          obtain ⟨rfl, rfl⟩ := List.cons.inj hrest
          exact hlog before entry rest hleft

theorem justified_cons {entry : α} {entries : List α} :
    Justified P (entry :: entries)
      ↔ P [] entry ∧ Justified (fun before later => P (entry :: before) later) entries := by
  have hsplit := @justified_append α P [entry] entries
  rw [List.singleton_append] at hsplit
  rw [hsplit]
  refine and_congr_left fun _ => ⟨fun h => h [] entry [] rfl, ?_⟩
  intro hfirst before later after h
  cases before with
  | nil =>
      obtain ⟨rfl, -⟩ := List.cons.inj h
      exact hfirst
  | cons => simp at h

/-- Entries that are right after any log. -/
theorem Justified.of_forall {log : List α} (h : ∀ before, ∀ entry ∈ log, P before entry) :
    Justified P log := by
  intro before entry after hlog
  apply h
  rw [hlog]
  simp

theorem Justified.mono {Q : List α → α → Prop} {log : List α} (h : Justified P log)
    (hmono : ∀ before entry, P before entry → Q before entry) : Justified Q log :=
  fun before entry after hlog => hmono before entry (h before entry after hlog)

end History
