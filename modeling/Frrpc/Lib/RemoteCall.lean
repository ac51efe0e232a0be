import Frrpc.Lib.History

/-!
# `Lib.RemoteCall` — what a service of remote calls promises

The service is described by what its users see: a client calls, a server executes a request, it replies, and
the client's call completes. Clients, ids, requests and replies are of any type, and a client finds the call
that a reply belongs to by the `key` of the id. `Caused` says what has to come before each event: a request
is executed only if its client made it, any number of times; a reply follows an execution; and a call
completes with a reply to its client, at most once.

`completion_chain` is what a client may rely on.
-/

namespace Frrpc.Lib.RemoteCall

variable {κ ι ρ ω τ : Type}

/-- What happens to calls of clients `κ`, with ids `ι`, requests `ρ`, replies `ω`, and completions told apart
    by a ticket `τ`. -/
inductive Event (κ ι ρ ω τ : Type) where
  | call (client : κ) (id : ι) (request : ρ)
  | execute (client : κ) (id : ι) (request : ρ)
  | reply (client : κ) (id : ι) (reply : ω)
  | complete (client : κ) (id : ι) (reply : ω) (ticket : τ)
deriving DecidableEq, Repr

variable {key : ι → ι} {es before : List (Event κ ι ρ ω τ)} {c : κ} {i k : ι} {q : ρ} {r : ω} {t : τ}

/-- The call has completed. -/
def Completed (es : List (Event κ ι ρ ω τ)) (client : κ) (ticket : τ) : Prop :=
  ∃ id reply, .complete client id reply ticket ∈ es

/-- The cause of each event. -/
def Caused (key : ι → ι) (before : List (Event κ ι ρ ω τ)) : Event κ ι ρ ω τ → Prop
  | .call _ _ _ => True
  | .execute client id request => .call client id request ∈ before
  | .reply client id _ => ∃ request, .execute client id request ∈ before
  | .complete client id reply ticket =>
    (∃ id', key id' = id ∧ .reply client id' reply ∈ before) ∧ ¬ Completed before client ticket

/-- A trace in which every event has its cause. -/
abbrev Lawful (key : ι → ι) (es : List (Event κ ι ρ ω τ)) : Prop := AtEach (Caused key) es

theorem Lawful.of_append (h : Lawful key es) {after : List (Event κ ι ρ ω τ)} (hes : es = before ++ after) :
    Lawful key before := by
  subst hes
  intro early e late hsplit
  refine h early e (late ++ after) ?_
  rw [hsplit, List.append_assoc, List.cons_append]

/-- **An execution comes after its call.** -/
theorem execute_chain (h : Lawful key es) (hmem : .execute c i q ∈ es) :
    List.Sublist [.call c i q, .execute c i q] es := by
  obtain ⟨before, after, rfl⟩ := List.append_of_mem hmem
  have hcall := h before _ after rfl
  exact (List.singleton_sublist.mpr hcall).append ((List.nil_sublist after).cons_cons _)

/-- **A reply comes after an execution, and that after its call.** -/
theorem reply_chain (h : Lawful key es) (hmem : .reply c i r ∈ es) :
    ∃ q, List.Sublist [.call c i q, .execute c i q, .reply c i r] es := by
  obtain ⟨before, after, rfl⟩ := List.append_of_mem hmem
  obtain ⟨q, hexecute⟩ := h before _ after rfl
  have hchain := execute_chain (h.of_append rfl) hexecute
  exact ⟨q, hchain.append ((List.nil_sublist after).cons_cons _)⟩

/-- **A completion ends a chain**: the client called, that very request was executed, its reply was sent, and
    with this reply the call completes. -/
theorem completion_chain (h : Lawful key es) {before after : List (Event κ ι ρ ω τ)}
    (hes : es = before ++ .complete c k r t :: after) :
    ∃ i q, key i = k ∧ List.Sublist [.call c i q, .execute c i q, .reply c i r] before := by
  obtain ⟨⟨i, hkey, hreply⟩, _⟩ := h before _ after hes
  obtain ⟨q, hchain⟩ := reply_chain (h.of_append hes) hreply
  exact ⟨i, q, hkey, hchain⟩

/-- **No call completes twice.** -/
theorem completion_unique (h : Lawful key es) {before after : List (Event κ ι ρ ω τ)}
    (hes : es = before ++ .complete c k r t :: after) :
    ¬ Completed before c t ∧ ¬ Completed after c t := by
  refine ⟨(h before _ after hes).2, ?_⟩
  rintro ⟨k', r', hlater⟩
  obtain ⟨between, late, rfl⟩ := List.append_of_mem hlater
  have hsecond : Caused key (before ++ .complete c k r t :: between) (.complete c k' r' t) :=
    h _ _ late (by rw [hes, List.append_assoc, List.cons_append])
  exact hsecond.2 ⟨k, r, List.mem_append_right _ List.mem_cons_self⟩

end Frrpc.Lib.RemoteCall
