/-
# Locations of one source merge to their join

A location is well formed when it lies within the text of its source and has the lines and
columns that the source's table of lines gives its two ends.  Such a location is determined
by its two offsets (`Covers.antisymm`), so covering is an order on the well-formed
locations of a source.

Merging takes the beginning of one location and the end of another, whole.  That makes the
join of the two in this order (`isJoin_merge`), and everything else about merging follows
from there being only one join (`IsJoin.unique`):

    a ∨ a = a                      the join of one location is the location
    a ∨ b = b ∨ a                  a join is that of a set
    a ∨ (b ∨ c) = (a ∨ b) ∨ c      `IsJoin.flatten`
    many at once, in any order     `isJoin_mergeAll`

Neither order nor grouping shows, nor which of two locations with the same beginning or the
same end was taken (`locations_join`).

An embedding program may put any numbers into a location.  Of locations that are not well
formed nothing of this is true: two of them with the same offsets may differ in their lines,
and then it does show which one was taken.  Locations of different sources do not merge.
-/
import Scriptlet.Proofs.Token.Underline

namespace Scriptlet

/-- The position of an offset, by the source's table of lines. -/
def Source.positionOf (source : Source) (offset : Int) : Position :=
  Text.positionAt source.text.toList offset.toNat

namespace Location

/-- A stretch of the text of a source, with the lines and columns of its two ends. -/
structure WellFormed (source : Source) (loc : Location) : Prop where
  ofSource : loc.source = source
  offset_nonneg : 0 ≤ loc.offset
  offset_le_stop : loc.offset ≤ loc.stop
  stop_le : loc.stop ≤ source.text.length
  line : loc.line = (source.positionOf loc.offset).line
  column : loc.column = (source.positionOf loc.offset).column
  endLine : loc.endLine = (source.positionOf loc.stop).line
  endColumn : loc.endColumn = (source.positionOf loc.stop).column

/-- The location holds all that the other one holds. -/
def Covers (a b : Location) : Prop := a.offset ≤ b.offset ∧ b.stop ≤ a.stop

/-- The smallest well-formed location that covers all of the given ones. -/
structure IsJoin (source : Source) (locs : List Location) (m : Location) : Prop where
  wellFormed : m.WellFormed source
  covers : ∀ a ∈ locs, m.Covers a
  least : ∀ d : Location, d.WellFormed source → (∀ a ∈ locs, d.Covers a) → d.Covers m

variable {source : Source} {a b c m n : Location} {locs more rest : List Location}

/-! ## Well-formed locations -/

theorem positionOf_spot {p : Position} (h : Spot source p) :
    source.positionOf p.offset = p ∧ p.offset ≤ source.text.length := by
  obtain ⟨x, y, htext, hxy, rfl⟩ := h
  have hposition := Position.advance_origin hxy
  have hoffset : (Position.origin.advance x).offset = x.length := by
    rw [hposition]
    rfl
  rw [Source.positionOf, hoffset, Int.toNat_natCast, htext, hposition]
  refine ⟨rfl, ?_⟩
  rw [← String.length_toList, htext, List.length_append]
  exact Nat.le_add_right _ _

/-- Scanner, parser and evaluator make their locations from marked spans, so all of them
are well formed. -/
theorem wellFormed_of_marked {span : Span} (h : Marked source span) :
    (Location.ofSpan source span).WellFormed source := by
  obtain ⟨hstart, -⟩ := positionOf_spot h.start
  obtain ⟨hstop, hwithin⟩ := positionOf_spot h.stop
  have hforward := h.forward
  have hend : (Location.ofSpan source span).stop = span.stop.offset := by
    simp only [Location.stop, ofSpan, Span.length]
    omega
  exact
    { ofSource := rfl
      offset_nonneg := Int.natCast_nonneg _
      offset_le_stop := by rw [hend]; exact Int.ofNat_le.2 hforward
      stop_le := by rw [hend]; exact Int.ofNat_le.2 hwithin
      line := congrArg (fun p => (p.line : Int)) hstart.symm
      column := congrArg (fun p => (p.column : Int)) hstart.symm
      endLine := by rw [hend, hstop]; rfl
      endColumn := by rw [hend, hstop]; rfl }

/-! ## Covering -/

theorem Covers.trans (h : a.Covers b) (h' : b.Covers c) : a.Covers c :=
  ⟨Int.le_trans h.1 h'.1, Int.le_trans h'.2 h.2⟩

theorem Covers.antisymm (h : a.Covers b) (h' : b.Covers a) (ha : a.WellFormed source)
    (hb : b.WellFormed source) : a = b := by
  have hoffset : a.offset = b.offset := Int.le_antisymm h.1 h'.1
  have hstop : a.stop = b.stop := Int.le_antisymm h'.2 h.2
  have hsource : a.source = b.source := ha.ofSource.trans hb.ofSource.symm
  have hlength : a.length = b.length := by
    unfold stop at hstop
    omega
  have hline : a.line = b.line := by rw [ha.line, hb.line, hoffset]
  have hcolumn : a.column = b.column := by rw [ha.column, hb.column, hoffset]
  have hendLine : a.endLine = b.endLine := by rw [ha.endLine, hb.endLine, hstop]
  have hendColumn : a.endColumn = b.endColumn := by rw [ha.endColumn, hb.endColumn, hstop]
  cases a
  cases b
  simp only at *
  subst_vars
  rfl

/-! ## Joins -/

theorem IsJoin.unique (hm : IsJoin source locs m) (hn : IsJoin source locs n) : m = n :=
  (hn.least m hm.wellFormed hm.covers).antisymm (hm.least n hn.wellFormed hn.covers)
    hm.wellFormed hn.wellFormed

/-- Which locations a join is of matters, but not how they are listed. -/
theorem IsJoin.of_subset (hm : IsJoin source locs m) (h : locs ⊆ more) (h' : more ⊆ locs) :
    IsJoin source more m where
  wellFormed := hm.wellFormed
  covers a ha := hm.covers a (h' ha)
  least d hd hcovers := hm.least d hd fun a ha => hcovers a (h ha)

theorem isJoin_single (ha : a.WellFormed source) : IsJoin source [a] a where
  wellFormed := ha
  covers b hb := by
    rw [List.mem_singleton.1 hb]
    exact ⟨Int.le_refl _, Int.le_refl _⟩
  least d _ hcovers := hcovers a (List.mem_singleton_self a)

theorem IsJoin.flatten (hm : IsJoin source locs m) (hn : IsJoin source (m :: more) n) :
    IsJoin source (locs ++ more) n where
  wellFormed := hn.wellFormed
  covers a ha := by
    rcases List.mem_append.1 ha with ha | ha
    · exact (hn.covers m List.mem_cons_self).trans (hm.covers a ha)
    · exact hn.covers a (List.mem_cons_of_mem m ha)
  least d hd hcovers := by
    refine hn.least d hd fun a ha => ?_
    rcases List.mem_cons.1 ha with rfl | ha
    · exact hm.least d hd fun b hb => hcovers b (List.mem_append_left more hb)
    · exact hcovers a (List.mem_append_right locs ha)

/-! ## Merging -/

theorem isJoin_merge (ha : a.WellFormed source) (hb : b.WellFormed source) :
    ∃ m, a.merge b = some m ∧ IsJoin source [a, b] m := by
  have hsource : a.source.id = b.source.id := by rw [ha.ofSource, hb.ofSource]
  -- Whichever of the two is first and whichever is last, each gives its own offset and position.
  obtain ⟨first, hfirst, hfirst_wf, hfirst_le⟩ :
      ∃ first, (if a.offset ≤ b.offset then a else b) = first ∧ first.WellFormed source ∧
        first.offset ≤ a.offset ∧ first.offset ≤ b.offset ∧
        ∀ i, i ≤ a.offset → i ≤ b.offset → i ≤ first.offset := by
    split
    · exact ⟨a, rfl, ha, by omega, by omega, fun i hi _ => hi⟩
    · exact ⟨b, rfl, hb, by omega, by omega, fun i _ hi => hi⟩
  obtain ⟨last, hlast, hlast_wf, hlast_le⟩ :
      ∃ last, (if b.stop ≤ a.stop then a else b) = last ∧ last.WellFormed source ∧
        a.stop ≤ last.stop ∧ b.stop ≤ last.stop ∧
        ∀ j, a.stop ≤ j → b.stop ≤ j → last.stop ≤ j := by
    split
    · exact ⟨a, rfl, ha, by omega, by omega, fun j hj _ => hj⟩
    · exact ⟨b, rfl, hb, by omega, by omega, fun j _ hj => hj⟩
  have hmerge : a.merge b = some
      { source := a.source, offset := first.offset, length := last.stop - first.offset,
        line := first.line, column := first.column, endLine := last.endLine,
        endColumn := last.endColumn } := by
    unfold merge
    rw [if_pos hsource, hfirst, hlast]
  refine ⟨_, hmerge, ?_⟩
  generalize hm : (Location.mk a.source first.offset (last.stop - first.offset) first.line
    first.column last.endLine last.endColumn) = m
  have hoffset : m.offset = first.offset := by rw [← hm]
  have hstop : m.stop = last.stop := by
    rw [← hm]
    simp only [stop]
    omega
  have ha_order := ha.offset_le_stop
  exact
    { wellFormed :=
        { ofSource := by rw [← hm]; exact ha.ofSource
          offset_nonneg := hoffset ▸ hfirst_wf.offset_nonneg
          offset_le_stop := by omega
          stop_le := hstop ▸ hlast_wf.stop_le
          line := by rw [hoffset, ← hfirst_wf.line, ← hm]
          column := by rw [hoffset, ← hfirst_wf.column, ← hm]
          endLine := by rw [hstop, ← hlast_wf.endLine, ← hm]
          endColumn := by rw [hstop, ← hlast_wf.endColumn, ← hm] }
      covers := by
        rw [List.forall_mem_cons, List.forall_mem_singleton]
        unfold Covers
        omega
      least := by
        intro d _ hcovers
        rw [List.forall_mem_cons, List.forall_mem_singleton] at hcovers
        obtain ⟨hda, hdb⟩ := hcovers
        refine ⟨?_, ?_⟩
        · rw [hoffset]
          exact hfirst_le.2.2 d.offset hda.1 hdb.1
        · rw [hstop]
          exact hlast_le.2.2 d.stop hda.2 hdb.2 }

/-- Merging well-formed locations one after the other gives the join of all. -/
theorem isJoin_mergeAll (ha : a.WellFormed source) (h : ∀ b ∈ rest, b.WellFormed source) :
    ∃ m, mergeAll a rest = some m ∧ IsJoin source (a :: rest) m := by
  induction rest generalizing a with
  | nil => exact ⟨a, rfl, isJoin_single ha⟩
  | cons b rest ih =>
      obtain ⟨hb, hrest⟩ := List.forall_mem_cons.1 h
      obtain ⟨ab, hmerge, hab⟩ := isJoin_merge ha hb
      obtain ⟨m, hall, hm⟩ := ih hab.wellFormed hrest
      refine ⟨m, ?_, hab.flatten hm⟩
      show (a.merge b).bind (fun ab => mergeAll ab rest) = some m
      rw [hmerge]
      exact hall

end Location

open Location

/-- **Merging makes the well-formed locations of a source a join semilattice.**  Covering is
antisymmetric, merging is idempotent, commutative and associative and gives the smallest
well-formed location that covers both, and merging any number of locations gives the
smallest that covers all of them, in whatever order they are given. -/
theorem locations_join (source : Source) :
    (∀ a b : Location, a.WellFormed source → b.WellFormed source → a.Covers b → b.Covers a →
      a = b) ∧
    (∀ a : Location, a.WellFormed source → a.merge a = some a) ∧
    (∀ a b : Location, a.WellFormed source → b.WellFormed source →
      ∃ m, a.merge b = some m ∧ b.merge a = some m ∧ m.WellFormed source ∧
        m.Covers a ∧ m.Covers b ∧
        ∀ d : Location, d.WellFormed source → d.Covers a → d.Covers b → d.Covers m) ∧
    (∀ a b c : Location, a.WellFormed source → b.WellFormed source → c.WellFormed source →
      ∃ ab bc m, a.merge b = some ab ∧ b.merge c = some bc ∧
        ab.merge c = some m ∧ a.merge bc = some m) ∧
    ∀ (first : Location) (rest : List Location),
      (∀ a ∈ first :: rest, a.WellFormed source) →
        ∃ m, IsJoin source (first :: rest) m ∧
          ∀ first' rest', (first' :: rest').Perm (first :: rest) →
            mergeAll first' rest' = some m := by
  refine ⟨?_, ?_, ?_, ?_, ?_⟩
  · intro a b ha hb h h'
    exact h.antisymm h' ha hb
  · intro a ha
    obtain ⟨m, hmerge, hm⟩ := isJoin_merge ha ha
    have hself : IsJoin source [a] m := hm.of_subset (by simp) (by simp)
    rw [hmerge, hself.unique (isJoin_single ha)]
  · intro a b ha hb
    obtain ⟨m, hmerge, hm⟩ := isJoin_merge ha hb
    obtain ⟨n, hmerge', hn⟩ := isJoin_merge hb ha
    have hswap : IsJoin source [a, b] n := hn.of_subset (by simp) (by simp)
    refine ⟨m, hmerge, hm.unique hswap ▸ hmerge', hm.wellFormed, hm.covers a (by simp),
      hm.covers b (by simp), ?_⟩
    intro d hd hda hdb
    exact hm.least d hd (by simp [hda, hdb])
  · intro a b c ha hb hc
    obtain ⟨ab, hmerge_ab, hab⟩ := isJoin_merge ha hb
    obtain ⟨bc, hmerge_bc, hbc⟩ := isJoin_merge hb hc
    obtain ⟨m, hmerge, hm⟩ := isJoin_merge hab.wellFormed hc
    obtain ⟨n, hmerge', hn⟩ := isJoin_merge ha hbc.wellFormed
    -- Both groupings are joins of all three.
    have hleft : IsJoin source [a, b, c] m := hab.flatten hm
    have hswap : IsJoin source [bc, a] n := hn.of_subset (by simp) (by simp)
    have hright : IsJoin source [a, b, c] n := (hbc.flatten hswap).of_subset (by simp) (by simp)
    exact ⟨ab, bc, m, hmerge_ab, hmerge_bc, hmerge, hleft.unique hright ▸ hmerge'⟩
  · intro first rest h
    obtain ⟨hfirst, hrest⟩ := List.forall_mem_cons.1 h
    obtain ⟨m, -, hm⟩ := isJoin_mergeAll hfirst hrest
    refine ⟨m, hm, ?_⟩
    intro first' rest' hperm
    have h' : ∀ a ∈ first' :: rest', a.WellFormed source := fun a ha => h a (hperm.mem_iff.1 ha)
    obtain ⟨hfirst', hrest'⟩ := List.forall_mem_cons.1 h'
    obtain ⟨n, hall, hn⟩ := isJoin_mergeAll hfirst' hrest'
    rw [hall, (hn.of_subset hperm.subset hperm.symm.subset).unique hm]

def twoLines : Source := { text := "ab\r\ncd" }

/-- The first line of `twoLines`. -/
def lineOne : Location := .ofSpan twoLines (inFirstLine 0 2)

def lineTwo : Location := .ofSpan twoLines ⟨⟨4, 2, 1⟩, ⟨6, 2, 3⟩⟩

/-- The two lines and the end, which is where the second line ends, merge to the whole text
in either order. -/
theorem twoLines_joined :
    (∀ a ∈ [lineOne, lineTwo, atEnd twoLines], a.WellFormed twoLines) ∧
      ∃ m, IsJoin twoLines [lineOne, lineTwo, atEnd twoLines] m ∧
        mergeAll lineOne [lineTwo, atEnd twoLines] = some m ∧
        mergeAll (atEnd twoLines) [lineOne, lineTwo] = some m := by
  have hone : lineOne.WellFormed twoLines :=
    ⟨rfl, by decide, by decide, by decide, by decide, by decide, by decide, by decide⟩
  have htwo : lineTwo.WellFormed twoLines :=
    ⟨rfl, by decide, by decide, by decide, by decide, by decide, by decide, by decide⟩
  have hend : (atEnd twoLines).WellFormed twoLines := wellFormed_of_marked (marked_end twoLines)
  have hall : ∀ a ∈ [lineOne, lineTwo, atEnd twoLines], a.WellFormed twoLines := by
    simp [hone, htwo, hend]
  obtain ⟨m, hm, horder⟩ := (locations_join twoLines).2.2.2.2 _ _ hall
  have hturned : [atEnd twoLines, lineOne, lineTwo].Perm [lineOne, lineTwo, atEnd twoLines] :=
    (List.perm_append_singleton (atEnd twoLines) [lineOne, lineTwo]).symm
  exact ⟨hall, m, hm, horder _ _ (.refl _), horder _ _ hturned⟩

end Scriptlet
