import CriticalCss.Job

/-! Laws of the store of jobs. What is put under a name is found there and nowhere else, and only
the last thing that was put there counts. So the marks that a job gets one after the other come to
one change of its record.
-/

namespace CriticalCss.JobStore

variable {store : JobStore} {id other : String} {job old : Option Job}

theorem lookup_putIn (jobs : List (String × Option Job)) (id : String) (job : Option Job)
    : (putIn jobs id job).lookup id = some job := by
  induction jobs with
  | nil => simp [putIn]
  | cons entry rest ih =>
    unfold putIn
    by_cases own : entry.1 = id
    · rw [if_pos own, List.lookup_cons, own, beq_self_eq_true]
    · rw [if_neg own, List.lookup_cons, beq_false_of_ne (Ne.symm own)]
      exact ih

theorem lookup_putIn_of_ne (jobs : List (String × Option Job)) (job : Option Job)
    (distinct : other ≠ id)
    : (putIn jobs id job).lookup other = jobs.lookup other := by
  induction jobs with
  | nil => rw [putIn, List.lookup_cons, beq_false_of_ne distinct]
  | cons entry rest ih =>
    obtain ⟨known, old⟩ := entry
    unfold putIn
    by_cases own : known = id
    · rw [if_pos own, List.lookup_cons, List.lookup_cons, own, beq_false_of_ne distinct]
    · rw [if_neg own, List.lookup_cons, List.lookup_cons, ih]

theorem putIn_putIn (jobs : List (String × Option Job)) (id : String) (old job : Option Job)
    : putIn (putIn jobs id old) id job = putIn jobs id job := by
  induction jobs with
  | nil => simp [putIn]
  | cons entry rest ih =>
    by_cases own : entry.1 = id
    · simp [putIn, own]
    · simp [putIn, own, ih]

@[simp]
theorem get?_put (store : JobStore) (id : String) (job : Option Job)
    : (store.put id job).get? id = job := by
  simp [put, get?, lookup_putIn]

theorem get?_put_of_ne (store : JobStore) (job : Option Job) (distinct : other ≠ id)
    : (store.put id job).get? other = store.get? other := by
  simp [put, get?, lookup_putIn_of_ne _ _ distinct]

@[simp]
theorem put_put (store : JobStore) (id : String) (old job : Option Job)
    : (store.put id old).put id job = store.put id job := by
  simp [put, putIn_putIn]

end CriticalCss.JobStore
