import CodeWindow.Chain
import Mathlib.Data.List.Chain
import Mathlib.Data.List.Nodup

/-! Pointer chains without the loop that finds them. From an address on, there is exactly one list
of links in which each link is the pointer at the one before it, no link but the last comes twice,
and which ends before the limit only where no pointer can be read or where a link comes back. The
chain that is found is this list. -/

namespace CodeWindow.Chain

/-- The second link is the pointer at the first one. -/
def PointsTo (pointer? : UInt64 → Option UInt64) (link following : UInt64) : Prop :=
  pointer? link = some following

/-- A chain from an address over at most `limit` pointers. -/
structure Follows (pointer? : UInt64 → Option UInt64) (address : UInt64) (limit : Nat)
    (links : List UInt64) : Prop where
  start : links.head? = some address
  length_le : links.length ≤ limit + 1
  linked : links.IsChain (PointsTo pointer?)
  distinct : links.dropLast.Nodup
  /-- A chain is short only where its last link cannot be read or came before. -/
  ended : links.length < limit + 1 → ∃ last, links.getLast? = some last ∧
    (pointer? last = none ∨ last ∈ links.dropLast)

/-- The links that a walk has seen, the latest one first. -/
structure Path (pointer? : UInt64 → Option UInt64) (address : UInt64) (seen : List UInt64) :
    Prop where
  start : seen.getLast? = some address
  linked : seen.reverse.IsChain (PointsTo pointer?)
  distinct : seen.Nodup

variable {pointer? : UInt64 → Option UInt64} {address current value : UInt64} {limit : Nat}
  {seen earlier links others : List UInt64}

/-! ### The loop -/

namespace Path

theorem singleton (pointer? : UInt64 → Option UInt64) (address : UInt64) :
    Path pointer? address [address] where
  start := rfl
  linked := List.isChain_singleton address
  distinct := List.nodup_singleton address

theorem head?_reverse (h : Path pointer? address seen) : seen.reverse.head? = some address := by
  rw [List.head?_reverse, h.start]

/-- One more pointer goes on with the links in their order. -/
theorem linked_append (h : Path pointer? address (current :: earlier))
    (hvalue : pointer? current = some value) :
    ((current :: earlier).reverse ++ [value]).IsChain (PointsTo pointer?) := by
  refine List.isChain_append.mpr ⟨h.linked, List.isChain_singleton value, ?_⟩
  intro last hlast following hfollowing
  rw [List.getLast?_reverse, List.head?_cons, Option.mem_some_iff] at hlast
  rw [List.head?_cons, Option.mem_some_iff] at hfollowing
  rw [← hlast, ← hfollowing]
  exact hvalue

theorem step (h : Path pointer? address (current :: earlier))
    (hvalue : pointer? current = some value) (hnew : value ∉ current :: earlier) :
    Path pointer? address (value :: current :: earlier) where
  start := by rw [List.getLast?_cons_cons, h.start]
  linked := by
    rw [List.reverse_cons]
    exact h.linked_append hvalue
  distinct := List.nodup_cons.mpr ⟨hnew, h.distinct⟩

theorem dropLast_nodup (h : Path pointer? address seen) : seen.reverse.dropLast.Nodup :=
  (List.nodup_reverse.mpr h.distinct).sublist (List.dropLast_sublist _)

/-- The walk ends at the limit. -/
theorem follows_of_limit (h : Path pointer? address (current :: earlier)) :
    Follows pointer? address earlier.length (current :: earlier).reverse where
  start := h.head?_reverse
  length_le := by rw [List.length_reverse, List.length_cons]
  linked := h.linked
  distinct := h.dropLast_nodup
  ended := by
    intro hshort
    rw [List.length_reverse, List.length_cons] at hshort
    omega

/-- The walk ends where no pointer can be read. -/
theorem follows_of_unreadable (h : Path pointer? address (current :: earlier))
    (hvalue : pointer? current = none) (limit : Nat) :
    Follows pointer? address (limit + earlier.length) (current :: earlier).reverse where
  start := h.head?_reverse
  length_le := by
    rw [List.length_reverse, List.length_cons]
    omega
  linked := h.linked
  distinct := h.dropLast_nodup
  ended := fun _ => ⟨current, by rw [List.getLast?_reverse, List.head?_cons], .inl hvalue⟩

/-- The walk ends at a link that it has seen. -/
theorem follows_of_seen (h : Path pointer? address (current :: earlier))
    (hvalue : pointer? current = some value) (hseen : value ∈ current :: earlier) (limit : Nat) :
    Follows pointer? address (limit + 1 + earlier.length)
      ((current :: earlier).reverse ++ [value]) where
  start := by rw [List.head?_append, h.head?_reverse, Option.some_or]
  length_le := by
    rw [List.length_append, List.length_reverse, List.length_cons, List.length_singleton]
    omega
  linked := h.linked_append hvalue
  distinct := by
    rw [List.dropLast_concat]
    exact List.nodup_reverse.mpr h.distinct
  ended := by
    intro _
    refine ⟨value, List.getLast?_concat, .inr ?_⟩
    rw [List.dropLast_concat]
    exact List.mem_reverse.mpr hseen

/-- Whatever a walk has seen, it goes on to a chain. -/
theorem follows_linksAfter (h : Path pointer? address (current :: earlier)) (limit : Nat) :
    Follows pointer? address (limit + earlier.length)
      ((current :: earlier).reverse ++ linksAfter pointer? limit (current :: earlier) current) := by
  induction limit generalizing current earlier with
  | zero =>
    rw [linksAfter, List.append_nil, Nat.zero_add]
    exact h.follows_of_limit
  | succ limit ih =>
    rw [linksAfter]
    cases hvalue : pointer? current with
    | none =>
      rw [List.append_nil]
      exact h.follows_of_unreadable hvalue (limit + 1)
    | some value =>
      simp only [List.contains_iff_mem]
      split
      · rename_i hseen
        exact h.follows_of_seen hvalue hseen limit
      · rename_i hnew
        have hnext := ih (h.step hvalue hnew)
        rw [List.reverse_cons, List.append_assoc, List.singleton_append, List.length_cons] at hnext
        rw [show limit + 1 + earlier.length = limit + (earlier.length + 1) by omega]
        exact hnext

end Path

theorem follow_follows (pointer? : UInt64 → Option UInt64) (address : UInt64) (limit : Nat) :
    Follows pointer? address limit (follow pointer? address limit) :=
  (Path.singleton pointer? address).follows_linksAfter limit

/-! ### Uniqueness -/

/-- Of two lists that pointers lead through from one address, one goes on from the other. -/
theorem isPrefix_or_isPrefix (hlinks : links.IsChain (PointsTo pointer?))
    (hothers : others.IsChain (PointsTo pointer?)) (hstart : links.head? = others.head?) :
    links <+: others ∨ others <+: links := by
  induction links generalizing others with
  | nil => exact .inl List.nil_prefix
  | cons link rest ih =>
    cases others with
    | nil => contradiction
    | cons other more =>
      obtain rfl : link = other := Option.some.inj hstart
      simp only [List.prefix_cons_inj]
      cases rest with
      | nil => exact .inl List.nil_prefix
      | cons following rest =>
        cases more with
        | nil => exact .inr List.nil_prefix
        | cons same more =>
          rw [List.isChain_cons_cons] at hlinks hothers
          have hsame : following = same := Option.some.inj (hlinks.1.symm.trans hothers.1)
          exact ih hlinks.2 hothers.2 (congrArg some hsame)

/-- A chain is not the beginning of another one. -/
theorem Follows.eq_of_isPrefix (hlinks : Follows pointer? address limit links)
    (hothers : Follows pointer? address limit others) (hbegins : links <+: others) :
    links = others := by
  obtain ⟨rest, rfl⟩ := hbegins
  cases rest with
  | nil => rw [List.append_nil]
  | cons following rest =>
    exfalso
    have hshort : links.length < limit + 1 := by
      have hlength := hothers.length_le
      rw [List.length_append, List.length_cons] at hlength
      omega
    obtain ⟨last, hlast, hunreadable | hagain⟩ := hlinks.ended hshort
    · -- The longer chain has read a pointer at the last link.
      obtain ⟨-, -, hjoint⟩ := List.isChain_append.mp hothers.linked
      have hread : pointer? last = some following := hjoint last hlast following rfl
      rw [hunreadable] at hread
      contradiction
    · -- The longer chain has this link twice before its last one.
      have hwhole : links.dropLast ++ [last] = links := List.dropLast_append_getLast? last hlast
      have hdistinct := hothers.distinct
      rw [List.dropLast_append_of_ne_nil (List.cons_ne_nil _ _)] at hdistinct
      have hboth := hdistinct.of_append_left
      rw [← hwhole] at hboth
      exact List.disjoint_of_nodup_append hboth hagain List.mem_cons_self

theorem Follows.unique (hlinks : Follows pointer? address limit links)
    (hothers : Follows pointer? address limit others) : links = others := by
  rcases isPrefix_or_isPrefix hlinks.linked hothers.linked (hlinks.start.trans hothers.start.symm)
    with hbegins | hbegins
  · exact hlinks.eq_of_isPrefix hothers hbegins
  · exact (hothers.eq_of_isPrefix hlinks hbegins).symm

/-- The chain that is found has no link too few and none too many. -/
theorem ofProcess_follows (process : Process) (address : UInt64) (limit : Nat) :
    Follows process.pointer? address limit (ofProcess process address limit) ∧
      ∀ links, Follows process.pointer? address limit links →
        links = ofProcess process address limit :=
  have hfound : Follows process.pointer? address limit (ofProcess process address limit) :=
    follow_follows process.pointer? address limit
  ⟨hfound, fun _ hlinks => hlinks.unique hfound⟩

end CodeWindow.Chain
