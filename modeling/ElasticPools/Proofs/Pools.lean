import ElasticPools.Registry
import Mathlib.Data.List.Nodup

/-!
What each operation on a registry does to its pools. A name may stand in a pool more than once, and then
operations on a worker of that name meet the oldest one. Where nobody has the name they fail and change
nothing.
-/

set_option autoImplicit false

namespace ElasticPools.Registry

variable {r : Registry} {kind k : Kind} {id : WorkerId} {busy : Bool}

/-- The names of the workers of a kind, if it is registered. -/
def ids? (r : Registry) (kind : Kind) : Option (List WorkerId) :=
  (r.pool? kind).map (·.map (·.id))

/-- What is missing where no worker of a kind has a name. -/
def missing (r : Registry) (kind : Kind) (id : WorkerId) : Missing :=
  if r.contains kind then .worker kind id else .kind kind

theorem ids?_of_pool? {workers : List Worker} (found : r.pool? kind = some workers) :
    r.ids? kind = some (workers.map (·.id)) := by
  rw [ids?, found, Option.map_some]

theorem pool_of_pool? {workers : List Worker} (found : r.pool? kind = some workers) :
    r.pool kind = workers := by
  rw [pool, found, Option.getD_some]

theorem pool?_eq : r.pool? kind = if r.contains kind then some (r.pool kind) else none := by
  rw [contains_eq, pool]
  cases r.pool? kind <;> rfl

theorem ids?_forget : (r.forget kind).ids? k = if kind = k then none else r.ids? k := by
  rw [ids?, pool?_forget]
  split <;> rfl

theorem ids?_put {workers : List Worker} :
    (r.put kind workers).ids? k = if kind = k then some (workers.map (·.id)) else r.ids? k := by
  rw [ids?, pool?_put]
  split <;> rfl

theorem map_id_pool : (r.pool kind).map (·.id) = (r.ids? kind).getD [] := by
  rw [pool, ids?]
  cases r.pool? kind <;> rfl

theorem ids?_register :
    (r.register kind).ids? k = if kind = k then some ((r.ids? k).getD []) else r.ids? k := by
  rw [register, ids?_put, map_id_pool]
  split
  · next same => rw [same]
  · rfl

theorem ids?_add {v : Worker} : (r.add kind v).ids? k =
    if kind = k then some ((r.ids? k).getD [] ++ [v.id]) else r.ids? k := by
  rw [add, ids?_put, List.map_append, map_id_pool]
  split
  · next same => rw [same]; rfl
  · rfl

theorem not_named_of_not_mem {workers : List Worker} (absent : id ∉ workers.map (·.id)) :
    ∀ v ∈ workers, ¬ decide (v.id = id) = true :=
  fun v inside named => absent (List.mem_map.mpr ⟨v, inside, of_decide_eq_true named⟩)

section Marking

theorem markBusy_of_not_mem {workers : List Worker} (absent : id ∉ workers.map (·.id)) :
    markBusy id busy workers = workers := by
  induction workers with
  | nil => rfl
  | cons v rest ih =>
    rw [List.map_cons, List.mem_cons, not_or] at absent
    rw [markBusy, if_neg (Ne.symm absent.1), ih absent.2]

/-- The worker that is marked is the first of its name. -/
theorem markBusy_append_cons {front : List Worker} {v : Worker} (rest : List Worker)
    (first : v.id ∉ front.map (·.id)) :
    markBusy v.id busy (front ++ v :: rest) = front ++ { v with busy } :: rest := by
  induction front with
  | nil => rw [List.nil_append, markBusy, if_pos rfl, List.nil_append]
  | cons u front ih =>
    rw [List.map_cons, List.mem_cons, not_or] at first
    rw [List.cons_append, markBusy, if_neg (Ne.symm first.1), ih first.2, List.cons_append]

end Marking

section Erasing

theorem eraseP_of_not_mem {workers : List Worker} (absent : id ∉ workers.map (·.id)) :
    workers.eraseP (·.id = id) = workers :=
  List.eraseP_of_forall_not (not_named_of_not_mem absent)

/-- The worker that is taken out is the first of its name. -/
theorem eraseP_append_cons {front : List Worker} {v : Worker} (rest : List Worker)
    (first : v.id ∉ front.map (·.id)) :
    (front ++ v :: rest).eraseP (·.id = v.id) = front ++ rest := by
  rw [List.eraseP_append_right _ (not_named_of_not_mem first)]
  simp

theorem map_id_eraseP (id : WorkerId) (workers : List Worker) :
    (workers.eraseP (·.id = id)).map (·.id) = (workers.map (·.id)).erase id := by
  have test : (fun w : Worker => decide (w.id = id)) = (id == ·) ∘ Worker.id :=
    funext fun w => decide_eq_decide.mpr eq_comm
  rw [List.erase_eq_eraseP, List.eraseP_map, test]

end Erasing

section Finding

variable {front back : List Worker} {v : Worker}

/-- A name that stands in a pool has an oldest worker. -/
theorem exists_split (listed : id ∈ (r.pool kind).map (·.id)) :
    ∃ front v back, r.pool? kind = some (front ++ v :: back) ∧ v.id = id ∧
      id ∉ front.map (·.id) := by
  cases found : r.pool? kind with
  | none =>
    rw [pool, found] at listed
    cases listed
  | some workers =>
    rw [pool_of_pool? found] at listed
    obtain ⟨v, oldest⟩ : ∃ v, workers.find? (·.id = id) = some v := by
      obtain ⟨u, inside, named⟩ := List.mem_map.mp listed
      rw [← Option.isSome_iff_exists, List.find?_isSome]
      exact ⟨u, inside, decide_eq_true named⟩
    obtain ⟨named, front, back, rfl, others⟩ := List.find?_eq_some_iff_append.mp oldest
    refine ⟨front, v, back, rfl, of_decide_eq_true named, fun earlier => ?_⟩
    obtain ⟨u, inside, same⟩ := List.mem_map.mp earlier
    simpa [same] using others u inside

theorem find_of_split (found : r.pool? kind = some (front ++ v :: back))
    (first : v.id ∉ front.map (·.id)) : r.find kind v.id = .ok (v, front ++ v :: back) := by
  have others : front.find? (·.id = v.id) = none :=
    List.find?_eq_none.mpr (not_named_of_not_mem first)
  simp [find, workers, found, List.find?_append, others]

theorem find_of_absent (absent : id ∉ (r.pool kind).map (·.id)) :
    r.find kind id = .error (r.missing kind id) := by
  unfold find workers missing
  rw [contains_eq]
  cases found : r.pool? kind with
  | none => rfl
  | some workers =>
    rw [pool_of_pool? found] at absent
    have nobody : workers.find? (·.id = id) = none :=
      List.find?_eq_none.mpr (not_named_of_not_mem absent)
    simp only [nobody]
    rfl

section Changing

variable {f : List Worker → List Worker}

theorem change_of_split (found : r.pool? kind = some (front ++ v :: back))
    (first : v.id ∉ front.map (·.id)) :
    r.change kind v.id f = (.ok v, r.put kind (f (front ++ v :: back))) := by
  rw [change, find_of_split found first]

theorem change_of_absent (absent : id ∉ (r.pool kind).map (·.id)) :
    r.change kind id f = (.error (r.missing kind id), r) := by
  rw [change, find_of_absent absent]

theorem isOk_change : (r.change kind id f).1.isOk = true ↔ id ∈ (r.pool kind).map (·.id) := by
  by_cases listed : id ∈ (r.pool kind).map (·.id)
  · obtain ⟨front, v, back, found, rfl, first⟩ := exists_split listed
    rw [change_of_split found first]
    exact iff_of_true rfl listed
  · rw [change_of_absent listed]
    exact iff_of_false nofun listed

theorem change_of_failed (failed : (r.change kind id f).1.isOk = false) :
    (r.change kind id f).2 = r := by
  rw [change_of_absent fun listed =>
    Bool.false_ne_true (failed.symm.trans (isOk_change.mpr listed))]

/-- A change that does nothing to a pool without the name can be taken to be made in any case. -/
theorem pool?_change
    (still : ∀ workers : List Worker, id ∉ workers.map (·.id) → f workers = workers) :
    (r.change kind id f).2.pool? k = if kind = k then (r.pool? k).map f else r.pool? k := by
  by_cases listed : id ∈ (r.pool kind).map (·.id)
  · obtain ⟨front, v, back, found, rfl, first⟩ := exists_split listed
    rw [change_of_split found first]
    dsimp only
    rw [pool?_put]
    split
    · next same => rw [← same, found, Option.map_some]
    · rfl
  · rw [change_of_absent listed]
    dsimp only
    split
    · next same =>
      cases found : r.pool? k with
      | none => rfl
      | some workers =>
        rw [same, pool_of_pool? found] at listed
        rw [Option.map_some, still workers listed]
    · rfl

end Changing

theorem take_of_split (found : r.pool? kind = some (front ++ v :: back))
    (first : v.id ∉ front.map (·.id)) :
    r.take kind v.id = (.ok v, r.put kind (front ++ back)) := by
  rw [take, change_of_split found first, eraseP_append_cons back first]

theorem take_of_absent (absent : id ∉ (r.pool kind).map (·.id)) :
    r.take kind id = (.error (r.missing kind id), r) :=
  change_of_absent absent

theorem mark_of_split (found : r.pool? kind = some (front ++ v :: back))
    (first : v.id ∉ front.map (·.id)) :
    r.mark kind v.id busy = (.ok (), r.put kind (front ++ { v with busy } :: back)) := by
  rw [mark, change_of_split found first, markBusy_append_cons back first]
  rfl

theorem mark_of_absent (absent : id ∉ (r.pool kind).map (·.id)) :
    r.mark kind id busy = (.error (r.missing kind id), r) := by
  rw [mark, change_of_absent absent]
  rfl

theorem isOk_mark :
    (r.mark kind id busy).1.isOk = (r.change kind id (markBusy id busy)).1.isOk := by
  unfold mark
  rcases r.change kind id (markBusy id busy) with ⟨_ | _, _⟩ <;> rfl

/-- Marking a worker as busy or idle, if it is there. -/
theorem pool?_mark : (r.mark kind id busy).2.pool? k =
    if kind = k then (r.pool? k).map (markBusy id busy) else r.pool? k :=
  pool?_change fun _ => markBusy_of_not_mem

/-- Taking a worker out of its pool, if it is there. -/
theorem pool?_take : (r.take kind id).2.pool? k =
    if kind = k then (r.pool? k).map (·.eraseP (·.id = id)) else r.pool? k :=
  pool?_change fun _ => eraseP_of_not_mem

theorem ids?_mark : (r.mark kind id busy).2.ids? k = r.ids? k := by
  rw [ids?, pool?_mark, ids?]
  split
  · rw [Option.map_map]
    exact congrArg (Option.map · (r.pool? k)) (funext (map_id_markBusy id busy))
  · rfl

theorem ids?_take : (r.take kind id).2.ids? k =
    if kind = k then (r.ids? k).map (·.erase id) else r.ids? k := by
  rw [ids?, pool?_take, ids?]
  split
  · rw [Option.map_map, Option.map_map]
    exact congrArg (Option.map · (r.pool? k)) (funext (map_id_eraseP id))
  · rfl

end Finding

section Kinds

theorem contains_eq_isSome : r.contains k = (r.ids? k).isSome := by
  rw [contains_eq, ids?, Option.isSome_map]

theorem mem_kinds : k ∈ r.kinds ↔ ∃ ids, r.ids? k = some ids := by
  rw [kinds, Std.ExtTreeMap.mem_keys, ← Std.ExtTreeMap.isSome_getElem?_iff_mem,
    Option.isSome_iff_exists]
  simp only [ids?, Option.map_eq_some_iff]
  exact ⟨fun ⟨workers, found⟩ => ⟨_, workers, found, rfl⟩, fun ⟨_, workers, found, _⟩ => ⟨workers, found⟩⟩

/-- Kinds are listed in order, so it is enough to know which there are. -/
theorem kinds_eq_filter {later : Registry} {keep : Kind → Bool}
    (same : ∀ k, k ∈ later.kinds ↔ k ∈ r.kinds ∧ keep k = true) :
    later.kinds = r.kinds.filter keep := by
  have ordered : ∀ r : Registry, r.kinds.Pairwise (compare · · = .lt) :=
    fun _ => Std.ExtTreeMap.ordered_keys
  have distinct : ∀ r : Registry, r.kinds.Nodup := fun _ => Std.ExtTreeMap.nodup_keys
  refine List.Perm.eq_of_pairwise ?_ (ordered later) ((ordered r).filter _) ?_
  · intro a b _ _ less greater
    rw [Std.OrientedOrd.eq_swap, greater] at less
    cases less
  · rw [List.perm_ext_iff_of_nodup (distinct later) ((distinct r).filter _)]
    intro k
    rw [List.mem_filter]
    exact same k

end Kinds

end ElasticPools.Registry
