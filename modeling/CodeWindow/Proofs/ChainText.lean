import CodeWindow.Proofs.ShownNumber
import CodeWindow.Snapshot
import Mathlib.Data.List.Basic

/-! The text of a chain without the string at its end. Split at the arrows it gives back the links
that are shown, each as the number that its part stands for, and then an ellipsis if there are more
links. The memory of the process does not count for the text. -/

namespace CodeWindow

/-! ### Texts that are split -/

namespace Text

open String.Slice.Pattern

/-- The parts of a text between the places where a separator stands. -/
def partsBetween (separator text : String) : List String :=
  (text.split separator).toList.map String.Slice.copy

variable {separator part before behind : String} {first : Char} {text : String.Slice}
  {start place stop : text.Pos}

/-- A separator cannot start inside a part that does not have its first character. -/
theorem not_matchesAt (hfirst : separator.toList.head? = some first) (hpart : first ∉ part.toList)
    (hstart : start.Splits before (part ++ behind)) (hstop : stop.Splits (before ++ part) behind)
    (hle : start ≤ place) (hlt : place < stop) : ¬ Model.MatchesAt separator place := by
  intro hmatches
  obtain ⟨left, right, hplace⟩ := Model.ForwardStringSearcher.matchesAt_iff_splits.mp hmatches
  obtain ⟨skipped, rfl, -⟩ := (hstart.le_iff_exists_eq_append hplace).mp hle
  obtain ⟨inside, hne, hwhole, hinside⟩ := (hplace.lt_iff_exists_eq_append hstop).mp hlt
  rw [String.append_assoc, String.append_right_inj] at hwhole
  -- What is left of the part at that place begins as the separator does.
  have hchars := congrArg String.toList hinside
  rw [String.toList_append, String.toList_append] at hchars
  have hbegins : inside.toList.head? = some first := by
    have hhead := congrArg List.head? hchars
    rw [List.head?_append, hfirst, List.head?_append_of_ne_nil _ (by simpa using hne)] at hhead
    exact hhead.symm
  refine hpart ?_
  rw [hwhole, String.toList_append]
  exact List.mem_append_right _ (List.mem_of_mem_head? hbegins)

theorem exists_splits (hstart : start.Splits before (part ++ behind)) :
    ∃ stop : text.Pos, stop.Splits (before ++ part) behind :=
  ⟨_, String.Slice.Pos.splits_ofEqAppend
    (hstart.eq_append.trans (String.append_assoc ..).symm)⟩

/-- From the start of a part on, a text is split into that part and those behind it. -/
theorem split_of_splits [Model.StrictPatternModel separator]
    (hfirst : separator.toList.head? = some first) {parts : List String} (hne : parts ≠ [])
    (hparts : ∀ part ∈ parts, first ∉ part.toList)
    (hstart : start.Splits before (separator.intercalate parts)) :
    (Model.split separator start start (Std.le_refl start)).map (fun piece => piece.toSlice.copy) =
      parts := by
  induction parts generalizing start before with
  | nil => contradiction
  | cons part rest ih =>
    have hpart := hparts part List.mem_cons_self
    cases rest with
    | nil =>
      rw [String.intercalate_singleton, ← String.append_empty (s := part)] at hstart
      have hend : text.endPos.Splits (before ++ part) "" := by
        rw [String.Slice.splits_endPos_iff, hstart.eq_append, String.append_empty]
        exact ⟨rfl, rfl⟩
      obtain ⟨hle, hcopy⟩ :=
        String.Slice.copy_slice_eq_iff_splits.mpr ⟨before, "", hstart, hend⟩
      rw [Model.split_eq_of_not_matchesAt text.endPos hle
        fun place => not_matchesAt hfirst hpart hstart hend, Model.split_endPos]
      simp only [List.map_cons, List.map_nil, String.Slice.toSlice_subslice, hcopy]
    | cons next rest =>
      rw [String.intercalate_cons_cons, String.append_assoc] at hstart
      -- The first match stands behind the part, and the next part starts behind the match.
      obtain ⟨place, hplace⟩ := exists_splits hstart
      obtain ⟨past, hpast⟩ := exists_splits hplace
      obtain ⟨hle, hcopy⟩ :=
        String.Slice.copy_slice_eq_iff_splits.mpr ⟨before, _, hstart, hplace⟩
      have hmatch : Model.IsLongestMatchAt separator place past :=
        Model.ForwardStringSearcher.isLongestMatchAt_iff_splits.mpr ⟨_, _, hplace, hpast⟩
      rw [Model.split_eq_of_not_matchesAt place hle
        fun place => not_matchesAt hfirst hpart hstart hplace,
        Model.split_eq_of_isLongestMatchAt hmatch, List.map_cons,
        String.Slice.toSlice_subslice, hcopy,
        ih (List.cons_ne_nil _ _) (fun part h => hparts part (List.mem_cons_of_mem _ h)) hpast]

/-- Texts without the first character of a separator are given back where they are joined by it. -/
theorem partsBetween_intercalate (hfirst : separator.toList.head? = some first)
    {parts : List String} (hne : parts ≠ []) (hparts : ∀ part ∈ parts, first ∉ part.toList) :
    partsBetween separator (separator.intercalate parts) = parts := by
  have hseparator : separator ≠ "" := by
    rintro rfl
    simp at hfirst
  have := Model.ForwardStringSearcher.strictPatternModel hseparator
  have := Model.ForwardStringSearcher.lawfulToForwardSearcherModel hseparator
  have hstart := (separator.intercalate parts).toSlice.splits_startPos
  rw [String.copy_toSlice] at hstart
  rw [partsBetween, String.split_eq_split_toSlice, String.Slice.toList_split_eq_splitToSubslice,
    toList_splitToSubslice_eq_modelSplit, List.map_map]
  exact split_of_splits hfirst hne hparts hstart

end Text

/-! ### Parts of chains -/

namespace Rendering

variable (address : UInt64)

theorem natNumeral?_plainAddress :
    Text.natNumeral? (plainAddress address).toList = some address.toNat := by
  unfold plainAddress
  split
  · exact Text.natNumeral?_hex address.toNat
  · exact Text.natNumeral?_decimal address.toNat

theorem space_not_mem_plainAddress : ' ' ∉ (plainAddress address).toList := by
  unfold plainAddress
  split
  · exact Text.space_not_mem_hex
  · exact Text.space_not_mem_decimal

theorem plainAddress_ne_empty : plainAddress address ≠ "" := by
  intro hempty
  have hnumber := natNumeral?_plainAddress address
  rw [hempty] at hnumber
  contradiction

theorem addressAndSymbol_of_none {symbolAt : UInt64 → Option String} {address : UInt64}
    (h : symbolAt address = none) : addressAndSymbol symbolAt address = plainAddress address := by
  rw [addressAndSymbol, h]

end Rendering

namespace Chain

open Rendering (plainAddress)

variable {process : Process} {addresses : List UInt64} {limit : Nat}

/-- The parts of a text between its arrows; a text without characters has no part. -/
def partsOf (text : String) : List String :=
  if text = "" then [] else Text.partsBetween arrow text

theorem renderLinks_plain (hsymbols : ∀ address ∈ addresses, process.symbolAt address = none)
    (maxLength : Nat) :
    renderLinks process false maxLength addresses = addresses.map plainAddress := by
  induction addresses with
  | nil => rfl
  | cons link rest ih =>
    have hlink := Rendering.addressAndSymbol_of_none (hsymbols link List.mem_cons_self)
    have hrest := ih fun address h => hsymbols address (List.mem_cons_of_mem _ h)
    cases rest with
    | nil => simp [renderLinks, renderLast, hlink]
    | cons next rest => simp only [renderLinks, hlink, hrest, List.map_cons]

/-- Without symbols and strings, a text is the numerals of its links and perhaps an ellipsis. -/
theorem render_plain (hlimit : limit < UInt64.size - 1)
    (hsymbols : ∀ address ∈ addresses, process.symbolAt address = none) (maxLength : Nat) :
    render process addresses limit false maxLength =
      arrow.intercalate ((addresses.take (limit + 1)).map plainAddress ++
        if limit + 1 < addresses.length then ["..."] else []) := by
  have hcount : oneMore limit = limit + 1 := Nat.mod_eq_of_lt (by omega)
  have hshown : ∀ address ∈ addresses.take (limit + 1), process.symbolAt address = none :=
    fun address h => hsymbols address (List.mem_of_mem_take h)
  rw [render, hcount, renderLinks_plain hshown]
  cases addresses with
  | nil => rfl
  | cons first rest =>
    rw [List.take_succ_cons, List.map_cons]
    simp only [gt_iff_lt]
    split
    · rfl
    · rw [List.append_nil]

/-- Only the chain without links has no text. -/
theorem render_eq_empty_iff (hlimit : limit < UInt64.size - 1)
    (hsymbols : ∀ address ∈ addresses, process.symbolAt address = none) (maxLength : Nat) :
    render process addresses limit false maxLength = "" ↔ addresses = [] := by
  rw [render_plain hlimit hsymbols]
  cases addresses with
  | nil => simp
  | cons first rest =>
    obtain ⟨behind, -, htext⟩ := exists_intercalate_arrow (plainAddress first)
      ((rest.take limit).map plainAddress ++
        if limit + 1 < (first :: rest).length then ["..."] else [])
    rw [List.take_succ_cons, List.map_cons, List.cons_append, htext]
    simp [Rendering.plainAddress_ne_empty]

theorem partsOf_render (hlimit : limit < UInt64.size - 1)
    (hsymbols : ∀ address ∈ addresses, process.symbolAt address = none) (maxLength : Nat) :
    partsOf (render process addresses limit false maxLength) =
      (addresses.take (limit + 1)).map plainAddress ++
        if limit + 1 < addresses.length then ["..."] else [] := by
  unfold partsOf
  split
  · rename_i hempty
    obtain rfl := (render_eq_empty_iff hlimit hsymbols maxLength).mp hempty
    simp
  · rename_i hshown
    have hlinks : addresses ≠ [] :=
      fun hnil => hshown ((render_eq_empty_iff hlimit hsymbols maxLength).mpr hnil)
    have hfirst : arrow.toList.head? = some ' ' := rfl
    rw [render_plain hlimit hsymbols]
    refine Text.partsBetween_intercalate hfirst (by simp [hlinks]) ?_
    intro part hpart
    rcases List.mem_append.mp hpart with hlink | hellipsis
    · obtain ⟨address, -, rfl⟩ := List.mem_map.mp hlink
      exact Rendering.space_not_mem_plainAddress address
    · split at hellipsis
      · rw [List.mem_singleton.mp hellipsis]
        decide
      · contradiction

/-- The text of a chain without symbols, whose memory is not looked into, gives back the links up to
the limit and tells whether there are more. Nothing but the links and the limit counts for it. -/
theorem render_gives_links_back (hlimit : limit < UInt64.size - 1)
    (hsymbols : ∀ address ∈ addresses, process.symbolAt address = none) (maxLength : Nat) :
    let text := render process addresses limit false maxLength
    (∃ links, partsOf text = links ++ (if limit + 1 < addresses.length then ["..."] else []) ∧
      links.map (fun link => Text.natNumeral? link.toList) =
        (addresses.take (min addresses.length (limit + 1))).map fun address =>
          some address.toNat) ∧
      (text = "" ↔ addresses = []) ∧
      ∀ (other : Process) (otherLength : Nat),
        (∀ address ∈ addresses, other.symbolAt address = none) →
          render other addresses limit false otherLength = text := by
  intro text
  refine ⟨⟨_, partsOf_render hlimit hsymbols maxLength, ?_⟩,
    render_eq_empty_iff hlimit hsymbols maxLength, ?_⟩
  · rw [List.map_map, Nat.min_comm, ← List.take_eq_take_min]
    exact List.map_congr_left fun address _ => Rendering.natNumeral?_plainAddress address
  · intro other otherLength hother
    rw [render_plain hlimit hother, ← render_plain hlimit hsymbols maxLength]

/-- Two of three links are shown, the second without the string that lies there. -/
theorem render_gives_two_links_back :
    let bare : Snapshot := { machine := .ofArch .x86_64 }
    let region : Region := {
      start := 0x2000, readable := true, writable := true, executable := false, objfile := ""
      data := "hi".toUTF8.toList }
    let snapshot := bare.mapRegion region
    let addresses : List UInt64 := [42, 0x2000, 0x3000]
    1 < UInt64.size - 1 ∧ (∀ address ∈ addresses, snapshot.process.symbolAt address = none) ∧
      render snapshot.process addresses 1 true 50 = "42 —▸ 0x2000 ◂— 'hi' —▸ ..." ∧
      render snapshot.process addresses 1 false 50 = "42 —▸ 0x2000 —▸ ..." ∧
      render bare.process addresses 1 false 9 = render snapshot.process addresses 1 false 50 ∧
      ∃ links, partsOf (render snapshot.process addresses 1 false 50) = links ++ ["..."] ∧
        links.map (fun link => Text.natNumeral? link.toList) = [some 42, some 0x2000] := by
  intro bare region snapshot addresses
  have hlimit : 1 < UInt64.size - 1 := by decide
  have hsymbols : ∀ address ∈ addresses, snapshot.process.symbolAt address = none :=
    fun _ _ => rfl
  have hback := render_gives_links_back hlimit hsymbols 50
  exact ⟨hlimit, hsymbols, by decide +kernel, by decide +kernel,
    hback.2.2 bare.process 9 fun _ _ => rfl, hback.1⟩

end Chain

end CodeWindow
