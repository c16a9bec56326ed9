import Laurels.Proofs.History

/-!
# Conduct

`Procedure.Ensures` asks that a procedure be answered so that it cannot fail. Here a procedure may fail at any
step. `p.Abides allowed rule past post` says that `p`, having taken the steps `past`, takes each further step
by `rule`, which may look at all the steps before it, and that `post` holds of all steps once `p` ends with an
answer. A procedure that ends with a fault owes nothing more.

A statement about a sequence is made from statements about its parts (`abides_seq`), as for `Ensures`;
`Abides.follows` and `Abides.takes` apply it to a history.
-/

namespace Laurels.Procedure

variable {α β : Type}

/-- Answered as `allowed` admits, a procedure takes its further steps by a rule, and if it ends with an answer,
`post` holds of all its steps and of the answer. -/
def Abides (allowed : Event → Prop) (rule : List Event → Event → Prop) :
    Procedure α → List Event → (List Event → α → Prop) → Prop
  | .done a, past, post => post past a
  | .raise _, _, _ => True
  | .query q next, past, post =>
    ∀ reply, allowed (.asked q reply) → rule past (.asked q reply)
      ∧ (next reply).Abides allowed rule (past ++ [.asked q reply]) post
  | .now next, past, post =>
    ∀ t, allowed (.told t) → rule past (.told t) ∧ (next t).Abides allowed rule (past ++ [.told t]) post
  | .log line next, past, post =>
    allowed (.wrote line) → rule past (.wrote line) ∧ next.Abides allowed rule (past ++ [.wrote line]) post

variable {allowed : Event → Prop} {rule : List Event → Event → Prop} {past : List Event}

/-! ## From statements to histories -/

/-- A step is taken by the rule, and so are the later ones. -/
theorem Abides.takes {p q : Procedure α} {Q : List Event → α → Prop} {e : Event}
    (h : p.Abides allowed rule past Q) (ht : p.Takes e q) (he : allowed e) :
    rule past e ∧ q.Abides allowed rule (past ++ [e]) Q := by
  cases ht with
  | asked query next reply => exact h reply he
  | told next t => exact h t he
  | wrote line next => exact h he

/-- **What a procedure abides by, it abides by after any history.** -/
theorem Abides.follows {p q : Procedure α} {Q : List Event → α → Prop} {es : List Event}
    (h : p.Abides allowed rule past Q) (hf : p.Follows es q) (hes : ∀ e ∈ es, allowed e) :
    q.Abides allowed rule (past ++ es) Q := by
  induction hf generalizing past with
  | stay p => rwa [List.append_nil]
  | step takes rest ih =>
    rw [List.forall_mem_cons] at hes
    have hrest := ih (h.takes takes hes.1).2 hes.2
    rwa [List.append_assoc] at hrest

/-- A rule that looks at one step at a time holds of each step that is taken. -/
theorem Abides.each {P : Event → Prop} {p q : Procedure α} {Q : List Event → α → Prop} {es : List Event}
    (h : p.Abides allowed (fun _ e => P e) past Q) (hf : p.Follows es q) (hes : ∀ e ∈ es, allowed e) :
    ∀ e ∈ es, P e := by
  induction hf generalizing past with
  | stay p => simp
  | step takes rest ih =>
    rw [List.forall_mem_cons] at hes ⊢
    obtain ⟨hfirst, hrest⟩ := h.takes takes hes.1
    exact ⟨hfirst, ih hrest hes.2⟩

theorem Abides.answered {a : α} {Q : List Event → α → Prop}
    (h : (Procedure.done a).Abides allowed rule past Q) : Q past a := h

/-! ## Statements about parts -/

theorem abides_done {Q : List Event → α → Prop} {a : α} (h : Q past a) :
    (Procedure.done a).Abides allowed rule past Q := h

theorem abides_raise (fault : Fault) (Q : List Event → α → Prop) :
    (Procedure.raise fault).Abides allowed rule past Q := trivial

/-- A procedure of which nothing is asked. -/
theorem abides_any (p : Procedure α) : p.Abides allowed (fun _ _ => True) past fun _ _ => True := by
  induction p generalizing past with
  | done a => exact trivial
  | raise e => exact trivial
  | query q next ih => exact fun reply _ => ⟨trivial, ih reply⟩
  | now next ih => exact fun t _ => ⟨trivial, ih t⟩
  | log line next ih => exact fun _ => ⟨trivial, ih⟩

/-- A procedure abides by a rule about its queries if all that it asks is in accord with it. -/
theorem Asks.abides {kind : Query → Prop} {P : Event → Prop} {p : Procedure α} (h : p.Asks kind)
    (hask : ∀ q reply, kind q → P (.asked q reply)) (htold : ∀ t, P (.told t)) (hwrote : ∀ line, P (.wrote line)) :
    p.Abides allowed (fun _ e => P e) past fun _ _ => True := by
  induction p generalizing past with
  | done a => exact trivial
  | raise e => exact trivial
  | query q next ih =>
    intro reply _
    obtain ⟨hkind, hrest⟩ := h.takes (.asked q next reply)
    exact ⟨hask q reply (hkind q reply rfl), ih reply hrest⟩
  | now next ih => exact fun t _ => ⟨htold t, ih t (h.takes (.told next t)).2⟩
  | log line next ih => exact fun _ => ⟨hwrote line, ih (h.takes (.wrote line next)).2⟩

theorem Abides.mono {p : Procedure α} {Q Q' : List Event → α → Prop}
    (h : p.Abides allowed rule past Q) (himp : ∀ es a, Q es a → Q' es a) :
    p.Abides allowed rule past Q' := by
  induction p generalizing past with
  | done a => exact himp _ _ h
  | raise e => exact h
  | query q next ih => exact fun reply hr => ⟨(h reply hr).1, ih reply (h reply hr).2⟩
  | now next ih => exact fun t ht => ⟨(h t ht).1, ih t (h t ht).2⟩
  | log line next ih => exact fun hl => ⟨(h hl).1, ih (h hl).2⟩

/-- **One procedure after another.** -/
theorem abides_seq {p : Procedure α} {f : α → Procedure β} {R : List Event → α → Prop}
    {Q : List Event → β → Prop} (hp : p.Abides allowed rule past R)
    (hf : ∀ es a, R es a → (f a).Abides allowed rule es Q) :
    (p >>= f).Abides allowed rule past Q := by
  show (p.bind f).Abides allowed rule past Q
  induction p generalizing past with
  | done a => exact hf _ a hp
  | raise e => exact trivial
  | query q next ih => exact fun reply hr => ⟨(hp reply hr).1, ih reply (hp reply hr).2⟩
  | now next ih => exact fun t ht => ⟨(hp t ht).1, ih t (hp t ht).2⟩
  | log line next ih => exact fun hl => ⟨(hp hl).1, ih (hp hl).2⟩

/-- A rescue takes over after some steps, whichever they were. -/
theorem Abides.rescue {p : Procedure α} {handler : Fault → Procedure α} {Q : List Event → α → Prop}
    (hp : p.Abides allowed rule past Q)
    (hh : ∀ es fault, (handler fault).Abides allowed rule es Q) :
    (p.rescue handler).Abides allowed rule past Q := by
  induction p generalizing past with
  | done a => exact hp
  | raise e => exact hh _ e
  | query q next ih => exact fun reply hr => ⟨(hp reply hr).1, ih reply (hp reply hr).2⟩
  | now next ih => exact fun t ht => ⟨(hp t ht).1, ih t (hp t ht).2⟩
  | log line next ih => exact fun hl => ⟨(hp hl).1, ih (hp hl).2⟩

theorem abides_map {p : Procedure α} {f : α → β} {Q : List Event → β → Prop}
    (h : p.Abides allowed rule past fun es a => Q es (f a)) :
    (f <$> p).Abides allowed rule past Q :=
  abides_seq h fun _ _ ha => abides_done ha

theorem abides_ask {q : Query} {Q : List Event → q.Reply → Prop}
    (hrule : ∀ reply, allowed (.asked q reply) → rule past (.asked q reply))
    (hpost : ∀ r, allowed (.asked q (.ok r)) → Q (past ++ [.asked q (.ok r)]) r) :
    (ask q).Abides allowed rule past Q := by
  refine fun reply hr => ⟨hrule reply hr, ?_⟩
  cases reply with
  | ok r => exact hpost r hr
  | error fault => exact trivial

theorem abides_write {level : LogLevel} {text : String} {Q : List Event → Unit → Prop}
    (hrule : rule past (.wrote ⟨level, text⟩)) (hpost : Q (past ++ [.wrote ⟨level, text⟩]) ()) :
    (write level text).Abides allowed rule past Q :=
  fun _ => ⟨hrule, hpost⟩

theorem abides_readClock {Q : List Event → Int → Prop} (hrule : ∀ t, rule past (.told t))
    (hpost : ∀ t, allowed (.told t) → Q (past ++ [.told t]) t) : readClock.Abides allowed rule past Q :=
  fun t ht => ⟨hrule t, hpost t ht⟩

theorem abides_compute {x : Except NumberFault α} {Q : List Event → α → Prop}
    (h : ∀ a, x = .ok a → Q past a) : (compute x).Abides allowed rule past Q := by
  cases x with
  | ok a => exact h a rfl
  | error fault => exact trivial

-- from here on a statement about a procedure is made from the lemmas above, and never computed
attribute [irreducible] Abides

end Laurels.Procedure
