import ElasticPools.Controller

/-!
The calls that a controller makes, each with its answer. A recorded provider keeps them in a log and
answers as the provider that it wraps, so what holds of the log holds of that provider's calls.
-/

set_option autoImplicit false

namespace ElasticPools

abbrev Answer := Except Refusal Unit

/-- The reason that comes with a refusal. -/
def Refusal.ofAnswer? : Answer → Option Refusal
  | .ok _ => none
  | .error e => some e

inductive Call where
  | request (kind : Kind) (answer : Answer)
  | destruction (worker : WorkerId) (answer : Answer)
  | forget (kind : Kind)

namespace Call

/-- The answers to the requests for one kind. -/
def answersFor (kind : Kind) (calls : List Call) : List Answer :=
  calls.filterMap fun
    | request k answer => if k = kind then some answer else none
    | _ => none

/-- The answers to the destructions of one worker. -/
def attemptsOn (worker : WorkerId) (calls : List Call) : List Answer :=
  calls.filterMap fun
    | destruction w answer => if w = worker then some answer else none
    | _ => none

/-- One kind for each request that was accepted. -/
def requested (calls : List Call) : List Kind :=
  calls.filterMap fun
    | request kind (.ok _) => some kind
    | _ => none

/-- One worker for each destruction that was accepted. -/
def destroyed (calls : List Call) : List WorkerId :=
  calls.filterMap fun
    | destruction worker (.ok _) => some worker
    | _ => none

def refusals (calls : List Call) : List Refusal :=
  calls.filterMap fun
    | request _ answer | destruction _ answer => Refusal.ofAnswer? answer
    | forget _ => none

def forgotten (calls : List Call) : List Kind :=
  calls.filterMap fun
    | forget kind => some kind
    | _ => none

/-- Requests and destructions. The forgetting of a kind concerns nothing but the registry. -/
def orders (calls : List Call) : List Call :=
  calls.filter fun
    | forget _ => false
    | _ => true

variable (calls more : List Call)

@[simp] theorem answersFor_append (kind : Kind) :
    answersFor kind (calls ++ more) = answersFor kind calls ++ answersFor kind more :=
  List.filterMap_append

@[simp] theorem attemptsOn_append (worker : WorkerId) :
    attemptsOn worker (calls ++ more) = attemptsOn worker calls ++ attemptsOn worker more :=
  List.filterMap_append

@[simp] theorem requested_append : requested (calls ++ more) = requested calls ++ requested more :=
  List.filterMap_append

@[simp] theorem destroyed_append : destroyed (calls ++ more) = destroyed calls ++ destroyed more :=
  List.filterMap_append

@[simp] theorem refusals_append : refusals (calls ++ more) = refusals calls ++ refusals more :=
  List.filterMap_append

@[simp] theorem forgotten_append : forgotten (calls ++ more) = forgotten calls ++ forgotten more :=
  List.filterMap_append

theorem mem_attemptsOn {worker : WorkerId} {answer : Answer} {calls : List Call} :
    answer ∈ attemptsOn worker calls ↔ destruction worker answer ∈ calls := by
  simp only [attemptsOn, List.mem_filterMap]
  constructor
  · rintro ⟨call, member, selected⟩
    cases call with
    | destruction w given =>
      by_cases same : w = worker
      · simp only [same, if_true, Option.some.injEq] at selected
        rwa [same, selected] at member
      · simp only [same, if_false, reduceCtorEq] at selected
    | request => cases selected
    | forget => cases selected
  · intro member
    exact ⟨_, member, by simp⟩

theorem mem_destroyed {worker : WorkerId} {calls : List Call} :
    worker ∈ destroyed calls ↔ Except.ok () ∈ attemptsOn worker calls := by
  rw [mem_attemptsOn]
  simp only [destroyed, List.mem_filterMap]
  constructor
  · rintro ⟨call, member, selected⟩
    match call, selected with
    | .destruction _ (.ok _), rfl => exact member
  · intro member
    exact ⟨_, member, rfl⟩

/-- Accepted requests are those that are answered with success. -/
theorem count_requested (kind : Kind) (calls : List Call) :
    (requested calls).count kind = (answersFor kind calls).countP (·.isOk) := by
  induction calls with
  | nil => rfl
  | cons call calls ih =>
    match call with
    | .request k (.ok _) =>
      by_cases same : k = kind
      · simpa [requested, answersFor, same, Except.isOk, Except.toBool] using ih
      · simpa [requested, answersFor, same] using ih
    | .request k (.error _) =>
      by_cases same : k = kind
      · simpa [requested, answersFor, same, Except.isOk, Except.toBool] using ih
      · simpa [requested, answersFor, same] using ih
    | .destruction _ _ => exact ih
    | .forget _ => exact ih

/-- Accepted destructions are those that are answered with success. -/
theorem count_destroyed (worker : WorkerId) (calls : List Call) :
    (destroyed calls).count worker = (attemptsOn worker calls).countP (·.isOk) := by
  induction calls with
  | nil => rfl
  | cons call calls ih =>
    match call with
    | .destruction w (.ok _) =>
      by_cases same : w = worker
      · simpa [destroyed, attemptsOn, same, Except.isOk, Except.toBool] using ih
      · simpa [destroyed, attemptsOn, same] using ih
    | .destruction w (.error _) =>
      by_cases same : w = worker
      · simpa [destroyed, attemptsOn, same, Except.isOk, Except.toBool] using ih
      · simpa [destroyed, attemptsOn, same] using ih
    | .request _ _ => exact ih
    | .forget _ => exact ih

/-- Each order is either an accepted request, an accepted destruction or a refusal. -/
theorem length_orders (calls : List Call) : (orders calls).length =
    (requested calls).length + (destroyed calls).length + (refusals calls).length := by
  induction calls with
  | nil => rfl
  | cons call calls ih =>
    unfold orders requested destroyed refusals at ih ⊢
    match call with
    | .request _ (.ok _) | .request _ (.error _) | .destruction _ (.ok _)
    | .destruction _ (.error _) =>
      simp only [List.filter_cons, List.filterMap_cons, List.length_cons, if_true,
        Refusal.ofAnswer?, ih]
      omega
    | .forget _ => exact ih

end Call

/-- The calls made for one pool, in their order: destructions, then requests, then the forgetting. -/
structure PoolCalls where
  kind : Kind
  attempts : List (WorkerId × Answer)
  answers : List Answer
  forgets : Bool

namespace PoolCalls

def toList (c : PoolCalls) : List Call :=
  c.attempts.map (fun a => .destruction a.1 a.2) ++ c.answers.map (.request c.kind) ++
    if c.forgets then [.forget c.kind] else []

/-- The workers whose destruction was accepted. -/
def destroyed (attempts : List (WorkerId × Answer)) : List WorkerId :=
  attempts.filterMap fun a => if a.2.isOk then some a.1 else none

def refusals (answers : List Answer) : List Refusal := answers.filterMap Refusal.ofAnswer?

/-- The answers that concern one worker. -/
def answersOn (worker : WorkerId) (attempts : List (WorkerId × Answer)) : List Answer :=
  attempts.filterMap fun a => if a.1 = worker then some a.2 else none

theorem answersOn_append (w : WorkerId) (front back : List (WorkerId × Answer)) :
    answersOn w (front ++ back) =
      answersOn w front ++ answersOn w back :=
  List.filterMap_append

theorem answersOn_eq_nil {worker : WorkerId} {attempts : List (WorkerId × Answer)}
    (absent : worker ∉ attempts.map (·.1)) : answersOn worker attempts = [] := by
  simp only [answersOn, List.filterMap_eq_nil_iff]
  intro attempt member
  have other : attempt.1 ≠ worker := by
    rintro rfl
    exact absent (List.mem_map.mpr ⟨attempt, member, rfl⟩)
  simp only [other, if_false]

theorem answersOn_map_self (worker : WorkerId) (answers : List Answer) :
    answersOn worker (answers.map fun a => (worker, a)) = answers := by
  simp only [answersOn, List.filterMap_map, Function.comp_def, if_true, List.filterMap_some]

theorem answersOn_map_other {worker other : WorkerId} (apart : other ≠ worker)
    (answers : List Answer) : answersOn worker (answers.map fun a => (other, a)) = [] := by
  simp [answersOn, List.filterMap_map, apart]

theorem mem_destroyed_iff {w : WorkerId} {attempts : List (WorkerId × Answer)} :
    w ∈ destroyed attempts ↔ Except.ok () ∈ answersOn w attempts := by
  simp only [destroyed, answersOn, List.mem_filterMap]
  constructor
  · rintro ⟨⟨v, answer⟩, member, selected⟩
    cases answer with
    | error => cases selected
    | ok =>
      have same : v = w := Option.some.inj selected
      exact ⟨(v, .ok ()), member, by simp [same]⟩
  · rintro ⟨⟨v, answer⟩, member, selected⟩
    by_cases same : v = w
    · simp only [same, if_true, Option.some.injEq] at selected
      exact ⟨(v, answer), member, by simp [same, selected, Except.isOk, Except.toBool]⟩
    · simp only [same, if_false, reduceCtorEq] at selected

theorem destroyed_sublist (attempts : List (WorkerId × Answer)) :
    (destroyed attempts).Sublist (attempts.map (·.1)) := by
  induction attempts with
  | nil => exact List.Sublist.slnil
  | cons attempt rest ih =>
    simp only [destroyed, List.filterMap_cons, List.map_cons]
    split
    · exact ih.cons _
    · next heq =>
      split at heq
      · rw [← Option.some.inj heq]
        exact ih.cons_cons _
      · cases heq

theorem filterMap_toList {β : Type} (f : Call → Option β) (c : PoolCalls) :
    c.toList.filterMap f =
      c.attempts.filterMap (fun a => f (.destruction a.1 a.2)) ++
        c.answers.filterMap (fun a => f (.request c.kind a)) ++
        if c.forgets then (f (.forget c.kind)).toList else [] := by
  simp only [toList, List.filterMap_append, List.filterMap_map, Function.comp_def]
  split
  · cases given : f (.forget c.kind) <;> simp [given]
  · rfl

theorem toList_requests (kind : Kind) (answers : List Answer) :
    toList ⟨kind, [], answers, false⟩ = answers.map (.request kind) := by
  simp [toList]

theorem attemptsOn_toList (worker : WorkerId) (c : PoolCalls) :
    Call.attemptsOn worker c.toList = answersOn worker c.attempts := by
  simp [Call.attemptsOn, filterMap_toList, answersOn]

theorem answersFor_toList (kind : Kind) (c : PoolCalls) :
    Call.answersFor kind c.toList = if c.kind = kind then c.answers else [] := by
  rw [Call.answersFor, filterMap_toList]
  by_cases same : c.kind = kind
  · simp [same]
  · simp [same]

theorem requested_toList (c : PoolCalls) :
    Call.requested c.toList = List.replicate (c.answers.countP (·.isOk)) c.kind := by
  have requests : ∀ answers : List Answer,
      answers.filterMap (fun answer =>
        match Call.request c.kind answer with
        | .request kind (.ok _) => some kind
        | _ => none) = List.replicate (answers.countP (·.isOk)) c.kind := by
    intro answers
    induction answers with
    | nil => rfl
    | cons answer rest ih =>
      cases answer with
      | ok => simpa [Except.isOk, Except.toBool, List.replicate_succ] using ih
      | error => simpa [Except.isOk, Except.toBool] using ih
  simp [Call.requested, filterMap_toList, requests]

theorem destroyed_toList (c : PoolCalls) : Call.destroyed c.toList = destroyed c.attempts := by
  have selected : ∀ a : WorkerId × Answer,
      (match Call.destruction a.1 a.2 with
        | .destruction worker (.ok _) => some worker
        | _ => none) = if a.2.isOk then some a.1 else none := by
    rintro ⟨worker, _ | _⟩ <;> rfl
  simp [Call.destroyed, filterMap_toList, destroyed, selected]

theorem refusals_toList (c : PoolCalls) :
    Call.refusals c.toList = refusals (c.attempts.map (·.2)) ++ refusals c.answers := by
  simp only [Call.refusals, filterMap_toList, refusals, List.filterMap_map, Function.comp_def,
    Option.toList_none, ite_self, List.append_nil]

theorem forgotten_toList (c : PoolCalls) :
    Call.forgotten c.toList = if c.forgets then [c.kind] else [] := by
  rw [Call.forgotten, filterMap_toList, List.filterMap_eq_nil_iff.mpr fun _ _ => rfl,
    List.filterMap_eq_nil_iff.mpr fun _ _ => rfl]
  rfl

end PoolCalls

namespace Provider

variable {σ α : Type}

/-- A provider that writes down each call behind the calls so far. -/
def recorded (p : Provider σ α) : Provider (σ × List Call) α where
  registry s := p.registry s.1
  reading s := p.reading s.1
  request kind s :=
    let (answer, world) := p.request kind s.1
    (answer, world, s.2 ++ [.request kind answer])
  destroy worker s :=
    let (answer, world) := p.destroy worker s.1
    (answer, world, s.2 ++ [.destruction worker.id answer])
  forget kind s := (p.forget kind s.1, s.2 ++ [.forget kind])

end Provider

end ElasticPools
