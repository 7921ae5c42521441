import TreePath.Proofs.Match.Selecting
namespace TreePath

variable {a b part before after : Value} {location place above below : Location} {step : Step} {path left right : Path}
  {indexes : Bool} {places : Location → Prop}

open Value

-- Single steps, or none. Indices and slices may be left out.
inductive Path.Segment (indexes : Bool) : Path → Prop where
  | root : Segment indexes .root
  | this : Segment indexes .this
  | wildcard : Segment indexes .wildcard
  | fields (names : List String) : Segment indexes (.fields names)
  | index (i : Int64) (allowed : indexes = true) : Segment indexes (.index i)
  | slice (start stop step : Option Int64) (allowed : indexes = true) : Segment indexes (.slice start stop step)

-- Paths without conditions.
inductive Path.Unconditional (indexes : Bool) : Path → Prop where
  | segment {path : Path} (segment : path.Segment indexes) : Unconditional indexes path
  | child {left right : Path} (first : Unconditional indexes left) (second : Unconditional indexes right) :
      Unconditional indexes (.child left right)
  | descendants {left right : Path} (first : Unconditional indexes left) (second : Unconditional indexes right) :
      Unconditional indexes (.descendants left right)
  | union {alternatives : List Path} (all : ∀ path ∈ alternatives, Unconditional indexes path) :
      Unconditional indexes (.union alternatives)

-- Paths without `..` and `|`, save in their conditions. There is one way at most to every location.
inductive Path.Unforked (indexes : Bool) : Path → Prop where
  | segment {path : Path} (segment : path.Segment indexes) : Unforked indexes path
  | child {left right : Path} (first : Unforked indexes left) (second : Unforked indexes right) :
      Unforked indexes (.child left right)
  | filter (conditions : List Condition) : Unforked indexes (.filter conditions)
  | whereSome {left : Path} (right : Path) (first : Unforked indexes left) : Unforked indexes (.whereSome left right)
  | whereNone {left : Path} (right : Path) (first : Unforked indexes left) : Unforked indexes (.whereNone left right)

-- Paths in which nothing forks on the way to a condition.
inductive Path.Steady (indexes : Bool) : Path → Prop where
  | unconditional {path : Path} (unconditional : path.Unconditional indexes) : Steady indexes path
  | unforked {path : Path} (unforked : path.Unforked indexes) : Steady indexes path
  | child {left right : Path} (first : left.Unforked indexes) (second : Steady indexes right) :
      Steady indexes (.child left right)
  | onward {left right : Path} (first : Steady indexes left) (second : right.Unconditional indexes) :
      Steady indexes (.child left right)
  | descendants {left right : Path} (first : Steady indexes left) (second : right.Unconditional indexes) :
      Steady indexes (.descendants left right)

theorem Path.Selects.resolves (selects : path.Selects a location) : ∃ part, a.resolve? location = some part := by
  induction selects with
  | root | this | unconditional | single | sliceSingle => exact ⟨_, rfl⟩
  | wildcard present | field _ present | filter _ present _ => exact ⟨_, by rw [resolve?_cons, present]; rfl⟩
  | index isArray counts =>
    subst isArray
    have inside := (Match.position?_parts counts).1
    exact ⟨_, by rw [resolve?_cons, child?, List.getElem?_eq_getElem inside]; rfl⟩
  | slice isArray _ inside =>
    subst isArray
    exact ⟨_, by rw [resolve?_cons, child?, List.getElem?_eq_getElem inside]; rfl⟩
  | child _ leads _ _ ih | descendants _ leads _ _ ih =>
    obtain ⟨part, further⟩ := ih
    exact ⟨part, by rw [resolve?_append, leads]; exact further⟩
  | union _ _ ih => exact ih
  | whereSome _ leads _ | whereNone _ leads _ => exact ⟨_, leads⟩

theorem selects_segment (segment : path.Segment indexes) (selects : path.Selects a location)
    (resembles : Resembles indexes a b location) : path.Selects b location := by
  cases segment with
  | root =>
    cases selects
    exact .root
  | this =>
    cases selects
    exact .this
  | wildcard =>
    cases selects with
    | wildcard present =>
      obtain ⟨other, presentToo⟩ := child?_of_shape resembles.outer present
      exact .wildcard presentToo
  | fields names =>
    cases selects with
    | field listed present =>
      obtain ⟨other, presentToo⟩ := child?_of_shape resembles.outer present
      exact .field listed presentToo
  | index i allowed =>
    cases selects with
    | index isArray counts =>
      obtain ⟨others, isArrayToo, lengths⟩ := array_of_shape (isArray ▸ resembles.outer)
      exact .index isArrayToo (lengths ▸ counts)
    | single single counts =>
      obtain ⟨other, leads, singleToo⟩ := resembles.single allowed a rfl single
      cases leads
      exact .single singleToo counts
  | slice start stop step allowed =>
    cases selects with
    | slice isArray counts inside =>
      obtain ⟨others, isArrayToo, lengths⟩ := array_of_shape (isArray ▸ resembles.outer)
      exact .slice isArrayToo (lengths ▸ counts) (lengths ▸ inside)
    | sliceSingle single counts =>
      obtain ⟨other, leads, singleToo⟩ := resembles.single allowed a rfl single
      cases leads
      exact .sliceSingle singleToo counts

-- Whether a path without conditions selects a location is decided by the containers above it.
theorem selects_resembling (unconditional : path.Unconditional indexes) (selects : path.Selects a location)
    (resembles : Resembles indexes a b location) : path.Selects b location := by
  induction unconditional generalizing a b location with
  | segment segment => exact selects_segment segment selects resembles
  | child first second ihFirst ihSecond =>
    cases selects with
    | child before leads behind =>
      obtain ⟨inner, further⟩ := behind.resolves
      have beforeToo := ihFirst before (resembles.upTo leads further)
      obtain ⟨other, leadsToo⟩ := beforeToo.resolves
      exact .child beforeToo leadsToo (ihSecond behind (resembles.onward leads leadsToo))
  | descendants first second ihFirst ihSecond =>
    cases selects with
    | descendants before leads behind =>
      obtain ⟨inner, further⟩ := behind.resolves
      obtain ⟨upper, other, leadsToo, lower⟩ := resembles.through leads further
      exact .descendants (ihFirst before upper) leadsToo (ihSecond behind lower)
  | union all ih =>
    cases selects with
    | union listed one => exact .union listed (ih _ listed one resembles)

theorem comparable_of_append {above' below' : Location}
    (comparable : above ++ below <+: above' ++ below' ∨ above' ++ below' <+: above ++ below) :
    above <+: above' ∨ above' <+: above := by
  rcases comparable with shorter | shorter
  · exact List.prefix_or_prefix_of_prefix ((List.prefix_append _ _).trans shorter) (List.prefix_append _ _)
  · exact List.prefix_or_prefix_of_prefix (List.prefix_append _ _) ((List.prefix_append _ _).trans shorter)

theorem comparable_behind {below' : Location}
    (comparable : above ++ below <+: above ++ below' ∨ above ++ below' <+: above ++ below) :
    below <+: below' ∨ below' <+: below :=
  comparable.imp (List.prefix_append_right_inj above).mp (List.prefix_append_right_inj above).mp

theorem comparable_single {step' : Step} (comparable : [step] <+: [step'] ∨ [step'] <+: [step]) :
    [step] = [step'] := by
  rcases comparable with shorter | shorter
  · exact shorter.eq_of_length rfl
  · exact (shorter.eq_of_length rfl).symm

theorem segment_once (segment : path.Segment indexes) (selects : path.Selects a location) (again : path.Selects b place)
    (resembles : Resembles indexes a b location) (comparable : location <+: place ∨ place <+: location) :
    location = place := by
  cases segment with
  | root | this =>
    cases selects
    cases again
    rfl
  | wildcard =>
    cases selects
    cases again
    exact comparable_single comparable
  | fields names =>
    cases selects
    cases again
    exact comparable_single comparable
  | index i allowed =>
    cases selects with
    | index isArray counts =>
      cases again with
      | index => exact comparable_single comparable
      | single single => exact absurd single (resembles.notSingle isArray)
    | single single counts =>
      cases again with
      | index isArray => exact absurd isArray (resembles.notArray allowed single)
      | single => rfl
  | slice start stop step allowed =>
    cases selects with
    | slice isArray counts =>
      cases again with
      | slice => exact comparable_single comparable
      | sliceSingle single => exact absurd single (resembles.notSingle isArray)
    | sliceSingle single counts =>
      cases again with
      | slice isArray => exact absurd isArray (resembles.notArray allowed single)
      | sliceSingle => rfl

-- Two locations, one at or below the other, that are selected in values that resemble each other, are the
-- same.
theorem selects_once (unforked : path.Unforked indexes) (selects : path.Selects a location)
    (again : path.Selects b place) (resembles : Resembles indexes a b location)
    (comparable : location <+: place ∨ place <+: location) : location = place := by
  induction unforked generalizing a b location place with
  | segment segment => exact segment_once segment selects again resembles comparable
  | child first second ihFirst ihSecond =>
    cases selects with
    | child before leads behind =>
    cases again with
    | child before' leads' behind' =>
      obtain ⟨inner, further⟩ := behind.resolves
      cases ihFirst before before' (resembles.upTo leads further) (comparable_of_append comparable)
      rw [ihSecond behind behind' (resembles.onward leads leads') (comparable_behind comparable)]
  | filter conditions =>
    cases selects with
    | unconditional =>
      cases again with
      | unconditional => rfl
      | filter conditional => exact absurd rfl conditional
    | filter conditional =>
      cases again with
      | unconditional => exact absurd rfl conditional
      | filter => exact comparable_single comparable
  | whereSome right first ih =>
    cases selects with
    | whereSome one =>
    cases again with
    | whereSome two => exact ih one two resembles comparable
  | whereNone right first ih =>
    cases selects with
    | whereNone one =>
    cases again with
    | whereNone two => exact ih one two resembles comparable

-- Whether a path selects a location at or above every place.
def Path.Covers (path : Path) (value : Value) (places : Location → Prop) : Prop :=
  ∀ place, places place → ∃ upper, upper <+: place ∧ path.Selects value upper

theorem Path.Covers.ofChild (covers : (Path.child left right).Covers a places) : left.Covers a places := by
  intro place isPlace
  obtain ⟨upper, shorter, selects⟩ := covers place isPlace
  cases selects with
  | child one => exact ⟨_, (List.prefix_append _ _).trans shorter, one⟩

theorem Path.Covers.ofDescendants (covers : (Path.descendants left right).Covers a places) : left.Covers a places := by
  intro place isPlace
  obtain ⟨upper, shorter, selects⟩ := covers place isPlace
  cases selects with
  | descendants one =>
    rw [List.append_assoc] at shorter
    exact ⟨_, (List.prefix_append _ _).trans shorter, one⟩

theorem Path.Covers.ofWhereSome (covers : (Path.whereSome left right).Covers a places) : left.Covers a places := by
  intro place isPlace
  obtain ⟨upper, shorter, selects⟩ := covers place isPlace
  cases selects with
  | whereSome one => exact ⟨upper, shorter, one⟩

theorem Path.Covers.ofWhereNone (covers : (Path.whereNone left right).Covers a places) : left.Covers a places := by
  intro place isPlace
  obtain ⟨upper, shorter, selects⟩ := covers place isPlace
  cases selects with
  | whereNone one => exact ⟨upper, shorter, one⟩

-- There is one way only to a part, so that whatever is selected below it comes through it.
theorem Path.Covers.inside (covers : (Path.child left right).Covers a places) (unforked : left.Unforked indexes)
    (one : left.Selects a above) (leads : a.resolve? above = some part) :
    right.Covers part fun place => places (above ++ place) := by
  intro place isPlace
  obtain ⟨upper, shorter, selects⟩ := covers _ isPlace
  cases selects with
  | @child _ other _ _ above' below' one' leads' two =>
    have comparable := List.prefix_or_prefix_of_prefix (List.prefix_append above place)
      ((List.prefix_append above' below').trans shorter)
    cases selects_once unforked one one' .refl comparable
    cases leads.symm.trans leads'
    exact ⟨below', (List.prefix_append_right_inj above).mp shorter, two⟩

-- What is selected afterwards, and not rewritten itself, was selected before if places below it are
-- rewritten, and is the same part as before if there are none.
theorem selects_or_same (unforked : path.Unforked indexes) (rewritten : Rewritten before after places)
    (covers : path.Covers before places) (outside : ∀ place, places place → ¬place <+: location)
    (selects : path.Selects after location) :
    path.Selects before location ∨ after.resolve? location = before.resolve? location := by
  by_cases within : ∃ place, places place ∧ location <+: place
  · obtain ⟨place, isPlace, shorter⟩ := within
    obtain ⟨upper, above, again⟩ := covers place isPlace
    have comparable := List.prefix_or_prefix_of_prefix shorter above
    exact .inl (selects_once unforked selects again (rewritten.resembles outside) comparable ▸ again)
  · exact .inr (rewritten.apart location fun place isPlace =>
      ⟨outside place isPlace, fun shorter => within ⟨place, isPlace, shorter⟩⟩)

theorem child_before {other : Value} (unforked : left.Unforked indexes) (rewritten : Rewritten before after places)
    (covers : (Path.child left right).Covers before places)
    (outside : ∀ place, places place → ¬place <+: above ++ below) (leads : after.resolve? above = some other)
    (first : (∀ place, places place → ¬place <+: above) → left.Selects before above)
    (second : ∀ {part}, Rewritten part other (fun place => places (above ++ place)) →
      right.Covers part (fun place => places (above ++ place)) →
      (∀ place, places (above ++ place) → ¬place <+: below) → right.Selects part below) :
    (Path.child left right).Selects before (above ++ below) := by
  have outsideAbove : ∀ place, places place → ¬place <+: above :=
    fun place isPlace shorter => outside place isPlace (shorter.trans (List.prefix_append _ _))
  have one := first outsideAbove
  obtain ⟨part, leadsBefore⟩ := one.resolves
  refine .child one leadsBefore (second (rewritten.inside outsideAbove leadsBefore leads)
    (covers.inside unforked one leadsBefore) fun place isPlace shorter => ?_)
  exact outside _ isPlace ((List.prefix_append_right_inj above).mpr shorter)

theorem unforked_before (unforked : path.Unforked indexes) (rewritten : Rewritten before after places)
    (covers : path.Covers before places) (outside : ∀ place, places place → ¬place <+: location)
    (selects : path.Selects after location) : path.Selects before location := by
  induction unforked generalizing before after places location with
  | segment segment => exact selects_segment segment selects (rewritten.resembles outside)
  | child first second ihFirst ihSecond =>
    cases selects with
    | child one leads two =>
      exact child_before first rewritten covers outside leads
        (fun outside => ihFirst rewritten covers.ofChild outside one)
        fun rewritten covers outside => ihSecond rewritten covers outside two
  | filter conditions =>
    have unforked : (Path.filter conditions).Unforked indexes := .filter conditions
    rcases selects_or_same unforked rewritten covers outside selects with done | same
    · exact done
    cases selects with
    | unconditional => exact .unconditional
    | filter conditional present holds =>
      refine .filter conditional ?_ holds
      simpa [resolve?_cons, present] using same.symm
  | whereSome right first ih =>
    rcases selects_or_same (.whereSome right first) rewritten covers outside selects with done | same
    · exact done
    cases selects with
    | whereSome one leads finds => exact .whereSome (ih rewritten covers.ofWhereSome outside one) (same ▸ leads) finds
  | whereNone right first ih =>
    rcases selects_or_same (.whereNone right first) rewritten covers outside selects with done | same
    · exact done
    cases selects with
    | whereNone one leads finds => exact .whereNone (ih rewritten covers.ofWhereNone outside one) (same ▸ leads) finds

theorem selects_before (steady : path.Steady indexes) (rewritten : Rewritten before after places)
    (covers : path.Covers before places) (outside : ∀ place, places place → ¬place <+: location)
    (selects : path.Selects after location) : path.Selects before location := by
  induction steady generalizing before after places location with
  | unconditional unconditional => exact selects_resembling unconditional selects (rewritten.resembles outside)
  | unforked unforked => exact unforked_before unforked rewritten covers outside selects
  | child first second ih =>
    cases selects with
    | child one leads two =>
      exact child_before first rewritten covers outside leads
        (fun outside => unforked_before first rewritten covers.ofChild outside one)
        fun rewritten covers outside => ih rewritten covers outside two
  | onward first second ih =>
    cases selects with
    | @child _ _ _ _ above below one leads two =>
      have resembles : Resembles indexes after before (above ++ below) := rewritten.resembles outside
      have oneBefore := ih rewritten covers.ofChild
        (fun place isPlace shorter => outside place isPlace (shorter.trans (List.prefix_append _ _))) one
      obtain ⟨part, leadsBefore⟩ := oneBefore.resolves
      exact .child oneBefore leadsBefore (selects_resembling second two (resembles.onward leads leadsBefore))
  | descendants first second ih =>
    cases selects with
    | @descendants _ _ _ _ above between below one leads two =>
      have resembles : Resembles indexes after before (above ++ between ++ below) := rewritten.resembles outside
      obtain ⟨inner, further⟩ := two.resolves
      obtain ⟨_, part, leadsBefore, lower⟩ := resembles.through leads further
      rw [List.append_assoc] at outside
      have oneBefore := ih rewritten covers.ofDescendants
        (fun place isPlace shorter => outside place isPlace (shorter.trans (List.prefix_append _ _))) one
      exact .descendants oneBefore leadsBefore (selects_resembling second two lower)

-- The first of two locations, one of them at or below the other, is still selected.
theorem selects_after (steady : path.Steady indexes) (selects : path.Selects before location)
    (again : path.Selects after place) (resembles : Resembles indexes before after location)
    (comparable : location <+: place ∨ place <+: location) : path.Selects after location := by
  induction steady generalizing before after location place with
  | unconditional unconditional => exact selects_resembling unconditional selects resembles
  | unforked unforked => exact selects_once unforked selects again resembles comparable ▸ again
  | child first second ih =>
    cases selects with
    | child one leads two =>
    cases again with
    | child one' leads' two' =>
      obtain ⟨inner, further⟩ := two.resolves
      cases selects_once first one one' (resembles.upTo leads further) (comparable_of_append comparable)
      exact .child one' leads' (ih two two' (resembles.onward leads leads') (comparable_behind comparable))
  | onward first second ih =>
    cases selects with
    | child one leads two =>
    cases again with
    | child one' leads' two' =>
      obtain ⟨inner, further⟩ := two.resolves
      have oneAfter := ih one one' (resembles.upTo leads further) (comparable_of_append comparable)
      obtain ⟨other, leadsAfter⟩ := oneAfter.resolves
      exact .child oneAfter leadsAfter (selects_resembling second two (resembles.onward leads leadsAfter))
  | descendants first second ih =>
    cases selects with
    | descendants one leads two =>
    cases again with
    | descendants one' leads' two' =>
      obtain ⟨inner, further⟩ := two.resolves
      obtain ⟨upper, other, leadsAfter, lower⟩ := resembles.through leads further
      rw [List.append_assoc, List.append_assoc] at comparable
      have oneAfter := ih one one' upper (comparable_of_append comparable)
      exact .descendants oneAfter leadsAfter (selects_resembling second two lower)

end TreePath
