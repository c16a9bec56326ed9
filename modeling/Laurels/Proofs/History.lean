import Laurels.Proofs.Interleaving

/-!
# Histories

What a procedure does is said of its history, the list of its steps. `p.Ensures allowed post` says that `p`,
answered in any way that `allowed` admits, ends with an answer, and that `post` holds of its history and that
answer; a fault is no way to end. The replies are not tied to one store, so that the same statement serves a
procedure alone and one among others whose steps come in between.

A statement about a sequence is made from statements about its parts (`ensures_seq`), and `Ensures.adequate`
takes it to the runs. `p.Asks kind` bounds the queries of `p` in the same way, with no word on the replies.
-/

namespace Laurels.Procedure

variable {α β : Type}

/-- Answered as `allowed` admits, a procedure ends with an answer, and `post` holds of its history and of
the answer. -/
def Ensures (allowed : Event → Prop) : Procedure α → (List Event → α → Prop) → Prop
  | .done a, post => post [] a
  | .raise _, _ => False
  | .query q next, post =>
    ∀ reply, allowed (.asked q reply) → (next reply).Ensures allowed fun es a => post (.asked q reply :: es) a
  | .now next, post =>
    ∀ t, allowed (.told t) → (next t).Ensures allowed fun es a => post (.told t :: es) a
  | .log line next, post =>
    allowed (.wrote line) → next.Ensures allowed fun es a => post (.wrote line :: es) a

/-- Every query of a procedure is of some kind, whatever it is answered. -/
def Asks (kind : Query → Prop) : Procedure α → Prop
  | .done _ => True
  | .raise _ => True
  | .query q next => kind q ∧ ∀ reply, (next reply).Asks kind
  | .now next => ∀ t, (next t).Asks kind
  | .log _ next => next.Asks kind

variable {allowed : Event → Prop} {kind : Query → Prop}

/-! ## From statements to runs -/

/-- **What a procedure ensures holds of every history that has come to an end.** -/
theorem Ensures.adequate {p q : Procedure α} {post : List Event → α → Prop} {es : List Event}
    (h : p.Ensures allowed post) (hf : p.Follows es q) (hes : ∀ e ∈ es, allowed e) (hq : q.IsEnded) :
    ∃ a, q = .done a ∧ post es a := by
  induction hf generalizing post with
  | stay p =>
    obtain ⟨r, rfl⟩ := hq
    cases r with
    | ok a => exact ⟨a, rfl, h⟩
    | error e => exact False.elim h
  | step takes rest ih =>
    have hfirst := hes _ List.mem_cons_self
    have hrest := fun e he => hes e (List.mem_cons_of_mem _ he)
    cases takes with
    | asked query next reply => exact ih (h reply hfirst) hrest hq
    | told next t => exact ih (h t hfirst) hrest hq
    | wrote line next => exact ih (h hfirst) hrest hq

/-- A procedure that takes a step asks a query of its kind, if it asks one, and so it goes on. -/
theorem Asks.takes {p q : Procedure α} {e : Event} (h : p.Asks kind) (ht : p.Takes e q) :
    (∀ query reply, e = .asked query reply → kind query) ∧ q.Asks kind := by
  cases ht with
  | asked query next reply =>
    refine ⟨fun query' reply' heq => ?_, h.2 reply⟩
    cases heq
    exact h.1
  | told next t => exact ⟨(fun _ _ heq => nomatch heq), h t⟩
  | wrote line next => exact ⟨(fun _ _ heq => nomatch heq), h⟩

/-- The queries in a history are of the kind that the procedure asks. -/
theorem Asks.adequate {p q : Procedure α} {es : List Event} (h : p.Asks kind) (hf : p.Follows es q)
    {query : Query} {reply : Except StoreFault query.Reply} (hmem : .asked query reply ∈ es) :
    kind query := by
  induction hf with
  | stay p => exact nomatch hmem
  | step takes rest ih =>
    obtain ⟨hfirst, hrest⟩ := h.takes takes
    rcases List.mem_cons.mp hmem with heq | hmem
    · exact hfirst query reply heq.symm
    · exact ih hrest hmem

/-- What turns the answer of a procedure into another one takes the steps of the procedure, and no others. -/
theorem Follows.of_map {p : Procedure α} {f : α → β} {es : List Event} {q : Procedure β}
    (h : (f <$> p).Follows es q) : ∃ q', p.Follows es q' ∧ q = f <$> q' := by
  generalize hm : f <$> p = m at h
  induction h generalizing p with
  | stay m => exact ⟨p, .stay p, hm.symm⟩
  | step takes rest ih =>
    cases p with
    | done a => subst hm; cases takes
    | raise e => subst hm; cases takes
    | query q next =>
      subst hm
      cases takes with
      | asked q next' reply =>
        obtain ⟨q', hq', heq⟩ := ih (p := next reply) rfl
        exact ⟨q', .step (.asked q next reply) hq', heq⟩
    | now next =>
      subst hm
      cases takes with
      | told next' t =>
        obtain ⟨q', hq', heq⟩ := ih (p := next t) rfl
        exact ⟨q', .step (.told next t) hq', heq⟩
    | log line next =>
      subst hm
      cases takes with
      | wrote line next' =>
        obtain ⟨q', hq', heq⟩ := ih (p := next) rfl
        exact ⟨q', .step (.wrote line next) hq', heq⟩

theorem isEnded_map {p : Procedure α} {f : α → β} : (f <$> p).IsEnded ↔ p.IsEnded := by
  constructor
  · rintro ⟨r, hr⟩
    cases p with
    | done a => exact ⟨.ok a, rfl⟩
    | raise e => exact ⟨.error e, rfl⟩
    | query q next => cases r <;> cases hr
    | now next => cases r <;> cases hr
    | log line next => cases r <;> cases hr
  · rintro ⟨r, rfl⟩
    cases r with
    | ok a => exact ⟨.ok (f a), rfl⟩
    | error e => exact ⟨.error e, rfl⟩

/-! ## Statements about parts -/

theorem ensures_done {post : List Event → α → Prop} {a : α} (h : post [] a) :
    (Procedure.done a).Ensures allowed post := h

theorem Ensures.mono {p : Procedure α} {post post' : List Event → α → Prop}
    (h : p.Ensures allowed post) (himp : ∀ es a, post es a → post' es a) : p.Ensures allowed post' := by
  induction p generalizing post post' with
  | done a => exact himp _ _ h
  | raise e => exact h
  | query q next ih => exact fun reply hr => ih reply (h reply hr) fun es a => himp _ a
  | now next ih => exact fun t ht => ih t (h t ht) fun es a => himp _ a
  | log line next ih => exact fun hl => ih (h hl) fun es a => himp _ a

/-- **One procedure after another:** the histories are joined. -/
theorem ensures_seq {p : Procedure α} {f : α → Procedure β} {mid : List Event → α → Prop}
    {post : List Event → β → Prop} (hp : p.Ensures allowed mid)
    (hf : ∀ es a, mid es a → (f a).Ensures allowed fun es' b => post (es ++ es') b) :
    (p >>= f).Ensures allowed post := by
  show (p.bind f).Ensures allowed post
  induction p generalizing mid post with
  | done a => exact hf [] a hp
  | raise e => exact hp
  | query q next ih => exact fun reply hr => ih reply (hp reply hr) fun es a hmid => hf _ a hmid
  | now next ih => exact fun t ht => ih t (hp t ht) fun es a hmid => hf _ a hmid
  | log line next ih => exact fun hl => ih (hp hl) fun es a hmid => hf _ a hmid

/-- What never faults has no use for a rescue. -/
theorem Ensures.rescue {p : Procedure α} {post : List Event → α → Prop} (h : p.Ensures allowed post)
    (handler : Fault → Procedure α) : (p.rescue handler).Ensures allowed post := by
  induction p generalizing post with
  | done a => exact h
  | raise e => exact False.elim h
  | query q next ih => exact fun reply hr => ih reply (h reply hr)
  | now next ih => exact fun t ht => ih t (h t ht)
  | log line next ih => exact fun hl => ih (h hl)

theorem ensures_map {p : Procedure α} {f : α → β} {post : List Event → β → Prop}
    (h : p.Ensures allowed fun es a => post es (f a)) : (f <$> p).Ensures allowed post := by
  refine ensures_seq h fun es a ha => ?_
  show post (es ++ []) (f a)
  rwa [List.append_nil]

theorem ensures_ask {q : Query} {post : List Event → q.Reply → Prop}
    (h : ∀ reply, allowed (.asked q reply) → ∃ r, reply = .ok r ∧ post [.asked q (.ok r)] r) :
    (ask q).Ensures allowed post := by
  intro reply hr
  obtain ⟨r, rfl, hpost⟩ := h reply hr
  exact hpost

theorem ensures_write (level : LogLevel) (text : String) :
    (write level text).Ensures allowed fun es _ => es = [.wrote ⟨level, text⟩] :=
  fun _ => rfl

theorem ensures_readClock : readClock.Ensures allowed fun es t => es = [.told t] :=
  fun _ _ => rfl

/-- What comes after a log line is what comes after it is written. -/
theorem ensures_log {line : LogLine} {next : Procedure α} {post : List Event → α → Prop}
    (h : next.Ensures allowed fun es a => post (.wrote line :: es) a) :
    (Procedure.log line next).Ensures allowed post := fun _ => h

/-! ## What is asked -/

theorem Asks.bind {p : Procedure α} {f : α → Procedure β} (hp : p.Asks kind)
    (hf : ∀ a, (f a).Asks kind) : (p >>= f).Asks kind := by
  show (p.bind f).Asks kind
  induction p with
  | done a => exact hf a
  | raise e => exact trivial
  | query q next ih => exact ⟨hp.1, fun reply => ih reply (hp.2 reply)⟩
  | now next ih => exact fun t => ih t (hp t)
  | log line next ih => exact ih hp

theorem Asks.rescue {p : Procedure α} (hp : p.Asks kind) {handler : Fault → Procedure α}
    (hh : ∀ e, (handler e).Asks kind) : (p.rescue handler).Asks kind := by
  induction p with
  | done a => exact trivial
  | raise e => exact hh e
  | query q next ih => exact ⟨hp.1, fun reply => ih reply (hp.2 reply)⟩
  | now next ih => exact fun t => ih t (hp t)
  | log line next ih => exact ih hp

theorem asks_ask {q : Query} (h : kind q) : (ask q).Asks kind := by
  refine ⟨h, fun reply => ?_⟩
  cases reply <;> exact trivial

theorem Asks.mono {kind' : Query → Prop} {p : Procedure α} (h : p.Asks kind)
    (himp : ∀ q, kind q → kind' q) : p.Asks kind' := by
  induction p with
  | done a => exact trivial
  | raise e => exact trivial
  | query q next ih => exact ⟨himp q h.1, fun reply => ih reply (h.2 reply)⟩
  | now next ih => exact fun t => ih t (h t)
  | log line next ih => exact ih h

theorem asks_done (a : α) : (Procedure.done a).Asks kind := trivial

theorem asks_raise (fault : Fault) : (Procedure.raise fault : Procedure α).Asks kind := trivial

theorem Asks.map {p : Procedure α} (h : p.Asks kind) (f : α → β) : (f <$> p).Asks kind :=
  h.bind fun a => asks_done (f a)

theorem asks_write (level : LogLevel) (text : String) : (write level text).Asks kind := trivial

theorem asks_readClock : readClock.Asks kind := fun _ => trivial

theorem asks_compute (x : Except NumberFault α) : (compute x).Asks kind := by
  cases x <;> exact trivial

-- from here on a statement about a procedure is made from the lemmas above, and never computed
attribute [irreducible] Ensures Asks

end Laurels.Procedure
