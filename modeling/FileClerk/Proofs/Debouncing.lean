import Mathlib.Data.List.DropRight
import FileClerk.Watch.Debouncer

/-!
# What a debouncer answers

A debouncer is told of changes and asked for them, in any order. What it answers can be told from
the log of all that went before: the changes recorded since it last said yes are the ones it still
has to report (`unreported`), and all it needs to know of them is when the last one came
(`pending_after`). So no change is lost, and none is reported twice (`lawful_of_requests`).
-/

namespace FileClerk

namespace Watch

namespace Debouncer

inductive Request where
  | record (now : Nat)
  | takeReady (now : Nat)
  | flush
  deriving DecidableEq, Repr

/-- A request with its answer. -/
inductive Exchange where
  | recorded (now : Nat)
  | polled (now : Nat) (ready : Bool)
  | flushed (pending : Bool)
  deriving DecidableEq, Repr

/-- The reading of the clock that goes with a request. -/
def Request.reading? : Request → Option Nat
  | record now | takeReady now => some now
  | flush => none

namespace Exchange

/-- The answer is that there was a change, and it has been reported with that. -/
def saysYes : Exchange → Bool
  | recorded _ => false
  | polled _ ready => ready
  | flushed pending => pending

def records : Exchange → Bool
  | recorded _ => true
  | polled _ _ | flushed _ => false

def recorded? : Exchange → Option Nat
  | recorded now => some now
  | polled _ _ | flushed _ => none

end Exchange

def serve (d : Debouncer) : Request → Exchange × Debouncer
  | .record now => (.recorded now, d.record now)
  | .takeReady now => (.polled now (d.takeReady now).1, (d.takeReady now).2)
  | .flush => (.flushed d.flush.1, d.flush.2)

/-- The debouncer after some requests. -/
def after (d : Debouncer) (requests : List Request) : Debouncer :=
  requests.foldl (fun d request => (d.serve request).2) d

/-- What is answered to some requests, one after the other. -/
def log (d : Debouncer) : List Request → List Exchange
  | [] => []
  | request :: rest => (d.serve request).1 :: (d.serve request).2.log rest

/-- When the changes came that have been recorded since the last yes. -/
def unreported (log : List Exchange) : List Nat :=
  (log.rtakeWhile fun e => !e.saysYes).filterMap Exchange.recorded?

variable {d : Debouncer} {requests : List Request} {before later : List Exchange} {e : Exchange}

/-- A poll says yes to a change that has settled and forgets it, or it says no and changes
nothing. -/
theorem takeReady_settled_cases (d : Debouncer) (now : Nat) :
    (∃ last, d.pending = some last ∧ d.settle ≤ now - last
        ∧ d.takeReady now = (true, { d with pending := none }))
      ∨ (∀ last, d.pending = some last → ¬ d.settle ≤ now - last)
        ∧ d.takeReady now = (false, d) := by
  unfold takeReady
  split
  · rename_i last hlast
    split_ifs with hsettle
    · exact .inl ⟨last, hlast, hsettle, rfl⟩
    · refine .inr ⟨fun t ht => ?_, rfl⟩
      obtain rfl := Option.some.inj (hlast.symm.trans ht)
      exact hsettle
  · rename_i hnone
    exact .inr ⟨by simp [hnone], rfl⟩

theorem after_concat (d : Debouncer) (requests : List Request) (request : Request) :
    d.after (requests ++ [request]) = ((d.after requests).serve request).2 := by
  simp [after]

theorem log_append (d : Debouncer) : ∀ first rest : List Request,
    d.log (first ++ rest) = d.log first ++ (d.after first).log rest
  | [], _ => rfl
  | _ :: first, rest => congrArg (List.cons _) (log_append _ first rest)

theorem log_concat (d : Debouncer) (requests : List Request) (request : Request) :
    d.log (requests ++ [request]) = d.log requests ++ [((d.after requests).serve request).1] :=
  log_append d requests [request]

/-- Each exchange of a log answers one of the requests, after those before it. -/
theorem exists_request_of_log_eq : ∀ {requests : List Request} {d : Debouncer} {before},
    d.log requests = before ++ e :: later → ∃ first request rest,
      requests = first ++ request :: rest ∧ before = d.log first
        ∧ e = ((d.after first).serve request).1
  | [], _, _, h => by simp [log] at h
  | request :: requests, d, [], h => by
    obtain ⟨he, -⟩ := List.cons.inj h
    exact ⟨[], request, requests, rfl, rfl, he.symm⟩
  | request :: requests, d, x :: before, h => by
    obtain ⟨hx, hrest⟩ := List.cons.inj h
    obtain ⟨first, next, rest, rfl, rfl, rfl⟩ := exists_request_of_log_eq hrest
    exact ⟨request :: first, next, rest, rfl, congrArg (· :: _) hx.symm, rfl⟩

theorem unreported_concat_recorded (log : List Exchange) (now : Nat) :
    unreported (log ++ [.recorded now]) = unreported log ++ [now] := by
  simp [unreported, Exchange.saysYes, Exchange.recorded?]

theorem unreported_concat_of_yes (log : List Exchange) (h : e.saysYes) :
    unreported (log ++ [e]) = [] := by
  simp [unreported, h]

theorem unreported_concat_of_no (log : List Exchange) (h : e.saysYes = false)
    (hrecorded : e.recorded? = none) : unreported (log ++ [e]) = unreported log := by
  simp [unreported, h, hrecorded]

theorem unreported_append_cons_of_yes (h : e.saysYes) :
    unreported (before ++ e :: later) = unreported later := by
  induction later using List.reverseRecOn with
  | nil => exact unreported_concat_of_yes before h
  | append_singleton later x ih =>
    rw [← List.cons_append, ← List.append_assoc]
    rcases x with now | ⟨now, _ | _⟩ | (_ | _)
    · rw [unreported_concat_recorded, unreported_concat_recorded, ih]
    · rw [unreported_concat_of_no _ rfl rfl, unreported_concat_of_no _ rfl rfl, ih]
    · rw [unreported_concat_of_yes _ rfl, unreported_concat_of_yes _ rfl]
    · rw [unreported_concat_of_no _ rfl rfl, unreported_concat_of_no _ rfl rfl, ih]
    · rw [unreported_concat_of_yes _ rfl, unreported_concat_of_yes _ rfl]

theorem mem_of_mem_unreported {log : List Exchange} {now : Nat} (h : now ∈ unreported log) :
    .recorded now ∈ log := by
  obtain ⟨x, hx, hnow⟩ := List.mem_filterMap.1 h
  cases x with
  | recorded t =>
    obtain rfl := Option.some.inj hnow
    exact (List.rtakeWhile_suffix _ _).subset hx
  | polled | flushed => cases hnow

theorem settle_serve (d : Debouncer) (request : Request) :
    (d.serve request).2.settle = d.settle := by
  cases request with
  | record | flush => rfl
  | takeReady now =>
    obtain ⟨last, -, -, htake⟩ | ⟨-, htake⟩ := d.takeReady_settled_cases now <;>
      simp only [serve, htake]

theorem pending_serve {log : List Exchange} (h : d.pending = (unreported log).getLast?)
    (request : Request) :
    (d.serve request).2.pending = (unreported (log ++ [(d.serve request).1])).getLast? := by
  cases request with
  | record now =>
    rw [serve, unreported_concat_recorded]
    simp [record]
  | takeReady now =>
    obtain ⟨last, -, -, htake⟩ | ⟨-, htake⟩ := d.takeReady_settled_cases now <;> rw [serve, htake]
    · rw [unreported_concat_of_yes _ rfl]
      rfl
    · rw [unreported_concat_of_no _ rfl rfl]
      exact h
  | flush =>
    rcases hpending : d.pending with _ | last
    · rw [serve, flush, hpending, unreported_concat_of_no _ rfl rfl, ← h, hpending]
    · rw [serve, flush, hpending, unreported_concat_of_yes _ rfl]
      rfl

theorem settle_after (settle : Nat) (requests : List Request) :
    ((new settle).after requests).settle = settle := by
  induction requests using List.reverseRecOn with
  | nil => rfl
  | append_singleton requests request ih => rw [after_concat, settle_serve, ih]

theorem pending_after (settle : Nat) (requests : List Request) :
    ((new settle).after requests).pending
      = (unreported ((new settle).log requests)).getLast? := by
  induction requests using List.reverseRecOn with
  | nil => rfl
  | append_singleton requests request ih =>
    rw [after_concat, log_concat]
    exact pending_serve ih request

/-- A debouncer that has something to report says so when it is flushed. -/
theorem flush_iff {log : List Exchange} (h : d.pending = (unreported log).getLast?) :
    d.flush.1 = true ↔ unreported log ≠ [] := by
  simp [flush, h]

theorem takeReady_iff {log : List Exchange} (h : d.pending = (unreported log).getLast?)
    {now : Nat} (hnow : ∀ last ∈ unreported log, last ≤ now) :
    (d.takeReady now).1 = true ↔
      ∃ last, (unreported log).getLast? = some last ∧ last + d.settle ≤ now := by
  rw [← h]
  have hle : ∀ last, d.pending = some last → last ≤ now := fun last hlast =>
    hnow last (List.mem_of_getLast? (h ▸ hlast))
  obtain ⟨last, hlast, hsettle, htake⟩ | ⟨hno, htake⟩ := d.takeReady_settled_cases now <;>
    rw [htake]
  · have := hle last hlast
    exact iff_of_true rfl ⟨last, hlast, by omega⟩
  · refine iff_of_false (by simp) ?_
    rintro ⟨last, hlast, hsettle⟩
    exact hno last hlast (by omega)

theorem unreported_ne_nil_of_yes {log : List Exchange} (h : d.pending = (unreported log).getLast?)
    {request : Request} (hyes : (d.serve request).1.saysYes) : unreported log ≠ [] := by
  cases request with
  | record => cases hyes
  | takeReady now =>
    obtain ⟨last, hlast, -⟩ | ⟨-, htake⟩ := d.takeReady_settled_cases now
    · exact List.ne_nil_of_mem (List.mem_of_getLast? (h ▸ hlast))
    · simp [serve, htake, Exchange.saysYes] at hyes
  | flush => exact (flush_iff h).1 hyes

/-- Every yes takes at least one recorded change with it. -/
theorem count_concat {log : List Exchange} (hyes : e.saysYes → unreported log ≠ [])
    (hcount : log.countP Exchange.saysYes + (unreported log).length
      ≤ log.countP Exchange.records) :
    (log ++ [e]).countP Exchange.saysYes + (unreported (log ++ [e])).length
      ≤ (log ++ [e]).countP Exchange.records := by
  rw [List.countP_append, List.countP_append]
  rcases hanswer : e.saysYes with _ | _
  · rcases e with now | _ | _
    · rw [unreported_concat_recorded, List.length_append]
      simp [Exchange.saysYes, Exchange.records]
      omega
    all_goals
      rw [unreported_concat_of_no _ hanswer rfl]
      simp [hanswer, Exchange.records, hcount]
  · have hlength := List.length_pos_iff.2 (hyes hanswer)
    rw [unreported_concat_of_yes _ hanswer]
    simp [hanswer]
    omega

theorem count_log (settle : Nat) (requests : List Request) :
    ((new settle).log requests).countP Exchange.saysYes
        + (unreported ((new settle).log requests)).length
      ≤ ((new settle).log requests).countP Exchange.records := by
  induction requests using List.reverseRecOn with
  | nil => exact Nat.le_refl 0
  | append_singleton requests request ih =>
    rw [log_concat]
    exact count_concat (unreported_ne_nil_of_yes (pending_after settle requests)) ih

theorem record_mem_of_mem_log {now : Nat} (h : .recorded now ∈ d.log requests) :
    .record now ∈ requests := by
  obtain ⟨before, later, hlog⟩ := List.append_of_mem h
  obtain ⟨first, request, rest, rfl, -, he⟩ := exists_request_of_log_eq hlog
  cases request with
  | record t =>
    obtain rfl := Exchange.recorded.inj he
    simp
  | takeReady | flush => cases he

/-- On a clock that never goes back, no change has been recorded after the present reading. -/
theorem le_of_mem_unreported {first rest : List Request} {now last : Nat}
    (hclock : ((first ++ .takeReady now :: rest).filterMap Request.reading?).Pairwise (· ≤ ·))
    (hlast : last ∈ unreported (d.log first)) : last ≤ now := by
  rw [List.filterMap_append, List.pairwise_append] at hclock
  refine hclock.2.2 last ?_ now List.mem_cons_self
  exact List.mem_filterMap.2 ⟨_, record_mem_of_mem_log (mem_of_mem_unreported hlast), rfl⟩

/-- The law of a debouncer, for all that it is asked from its creation on. -/
structure Lawful (settle : Nat) (requests : List Request) : Prop where
  flush : ∀ before pending later, (new settle).log requests = before ++ .flushed pending :: later →
    (pending = true ↔ unreported before ≠ [])
  takeReady : ∀ before now ready later,
    (new settle).log requests = before ++ .polled now ready :: later →
    (ready = true ↔ ∃ last, (unreported before).getLast? = some last ∧ last + settle ≤ now)
  hasPending : ∀ first rest, requests = first ++ rest →
    (((new settle).after first).hasPending = true ↔ unreported ((new settle).log first) ≠ [])
  /-- Between two yeses a change is recorded. -/
  between : ∀ before e between e' later,
    (new settle).log requests = before ++ e :: between ++ e' :: later →
    e.saysYes → e'.saysYes → ∃ now, .recorded now ∈ between
  count : ((new settle).log requests).countP Exchange.saysYes
    ≤ ((new settle).log requests).countP Exchange.records
  /-- A poll that says no leaves everything as it was. -/
  keeps : ∀ first now rest, requests = first ++ .takeReady now :: rest →
    (((new settle).after first).takeReady now).1 = false →
    (new settle).after (first ++ [.takeReady now]) = (new settle).after first

/-- A debouncer on a clock that never goes back is lawful, whatever it is asked. -/
theorem lawful_of_requests {settle : Nat} {requests : List Request}
    (hclock : (requests.filterMap Request.reading?).Pairwise (· ≤ ·)) : Lawful settle requests where
  flush before pending later hlog := by
    obtain ⟨first, request, rest, rfl, rfl, he⟩ := exists_request_of_log_eq hlog
    cases request with
    | flush =>
      obtain rfl := Exchange.flushed.inj he
      exact flush_iff (pending_after settle first)
    | record | takeReady => cases he
  takeReady before now ready later hlog := by
    obtain ⟨first, request, rest, rfl, rfl, he⟩ := exists_request_of_log_eq hlog
    cases request with
    | takeReady t =>
      obtain ⟨rfl, rfl⟩ := Exchange.polled.inj he
      have hiff := takeReady_iff (pending_after settle first)
        fun last => le_of_mem_unreported hclock
      rwa [settle_after] at hiff
    | record | flush => cases he
  hasPending first rest _ := by simp [Debouncer.hasPending, pending_after]
  between before e between e' later hlog hyes hyes' := by
    obtain ⟨first, request, rest, -, hbefore, rfl⟩ := exists_request_of_log_eq hlog
    have hne := unreported_ne_nil_of_yes (pending_after settle first) hyes'
    rw [← hbefore, unreported_append_cons_of_yes hyes] at hne
    obtain ⟨now, hnow⟩ := List.exists_mem_of_ne_nil _ hne
    exact ⟨now, mem_of_mem_unreported hnow⟩
  count := (Nat.le_add_right _ _).trans (count_log settle requests)
  keeps first now rest _ hno := by
    rw [after_concat]
    obtain ⟨-, -, -, htake⟩ | ⟨-, htake⟩ := takeReady_settled_cases ((new settle).after first) now
    · simp [htake] at hno
    · simp [serve, htake]

/-- The second change comes before the first has settled, and is reported when it has. -/
theorem lawful_of_requests_reset :
    let requests : List Request := [.record 0, .takeReady 30, .record 30, .takeReady 60,
      .takeReady 80, .flush]
    (requests.filterMap Request.reading?).Pairwise (· ≤ ·)
      ∧ (new 50).log requests = [.recorded 0, .polled 30 false, .recorded 30, .polled 60 false,
        .polled 80 true, .flushed false]
      ∧ Lawful 50 requests := by
  intro requests
  have hclock : (requests.filterMap Request.reading?).Pairwise (· ≤ ·) := by decide
  exact ⟨hclock, by decide, lawful_of_requests hclock⟩

end Debouncer

end Watch

end FileClerk
