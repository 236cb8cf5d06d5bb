import Mathlib.Data.List.Basic
import Mathlib.Data.List.Induction
import ScanWatch.Proofs.Url.Segments
import ScanWatch.Url.Basic

namespace ScanWatch

namespace Url

def lessSlash (path : List Char) : List Char :=
  if path.getLast? = some '/' then path.dropLast else path

/-- What the paths of endpoints start with: the base path without one slash at its end. Of two
slashes alone nothing is left. -/
def endpointRoot (path : List Char) : List Char :=
  if path = ['/', '/'] then [] else lessSlash path

/-- A path as it is written, each segment behind a slash. -/
def written (segments : List String) : List Char :=
  segments.flatMap fun segment => '/' :: segment.toList

variable {base url other : Url} {root : List Char} {segments : List String}
  {segment name endpoint text : String}

private theorem toList_path (url : Url) : url.path.toList = written url.segments := by
  simp [path, String.toList_join, written, List.flatMap_map]

private theorem written_append (segments others : List String) :
    written (segments ++ others) = written segments ++ written others :=
  List.flatMap_append

private theorem written_singleton (segment : String) :
    written [segment] = '/' :: segment.toList := by
  rw [written, List.flatMap_singleton]

/-- The part of a path that stays when a segment is put at its end. -/
def kept (segments : List String) : List String :=
  if segments = [""] then [] else segments

private theorem push_eq (segments : List String) (segment : String) :
    push segments segment = kept segments ++ [segment] := by
  rw [push, kept]
  split <;> rfl

private theorem getLast?_ne (init : List String) (nonempty : segment ≠ "") :
    (init ++ [segment]).getLast? ≠ some "" := by
  rw [List.getLast?_concat]
  intro last
  exact nonempty (Option.some.inj last)

private theorem kept_append (init : List String) (nonempty : segment ≠ "") :
    kept (init ++ [segment]) = init ++ [segment] := by
  rw [kept, if_neg]
  intro same
  exact getLast?_ne init nonempty (congrArg List.getLast? same)

private theorem written_eq_slash_iff : written segments = ['/'] ↔ segments = [""] := by
  constructor
  · intro same
    cases segments with
    | nil => cases same
    | cons first others =>
      cases others with
      | nil =>
        rw [written_singleton] at same
        have empty : first.toList = [] := (List.cons.inj same).2
        rw [String.toList_eq_nil_iff.mp empty]
      | cons second others =>
        have long := congrArg List.length same
        simp [written] at long
  · rintro rfl
    rfl

private theorem endpointRoot_closed (segments : List String) :
    endpointRoot (written (segments ++ [""])) = written (kept segments) := by
  have closed : written (segments ++ [""]) = written segments ++ ['/'] := written_append _ [""]
  have bare : written segments ++ ['/'] = ['/', '/'] ↔ segments = [""] :=
    calc written segments ++ ['/'] = ['/', '/']
      _ ↔ written segments ++ ['/'] = ['/'] ++ ['/'] := Iff.rfl
      _ ↔ written segments = ['/'] := List.append_left_inj _
      _ ↔ segments = [""] := written_eq_slash_iff
  have less : lessSlash (written segments ++ ['/']) = written segments := by
    rw [lessSlash, List.getLast?_concat, if_pos rfl, List.dropLast_concat]
  rw [closed, endpointRoot, less, kept]
  simp only [bare]
  split <;> rfl

private theorem kept_dropEmptyEnd_closed (segments : List String) :
    kept (dropEmptyEnd (segments ++ [""])) = kept segments := by
  cases segments with
  | nil => rfl
  | cons first others =>
    rw [dropEmptyEnd, if_pos ⟨by simp, List.getLast?_concat ..⟩, List.dropLast_concat]

private theorem endpointRoot_open (init : List String) (nonempty : segment ≠ "")
    (plain : '/' ∉ segment.toList) :
    endpointRoot (written (init ++ [segment])) = written (init ++ [segment]) := by
  have filled : segment.toList ≠ [] := mt String.toList_eq_nil_iff.mp nonempty
  have last : (written (init ++ [segment])).getLast? = segment.toList.getLast? := by
    rw [written_append, written_singleton, List.getLast?_append_of_ne_nil _ (List.cons_ne_nil _ _),
      ← List.singleton_append, List.getLast?_append_of_ne_nil _ filled]
  have ends : (written (init ++ [segment])).getLast? ≠ some '/' := by
    rw [last]
    intro slash
    exact plain (List.mem_of_getLast? slash)
  rw [endpointRoot, lessSlash, if_neg ends, ite_eq_right_iff]
  intro bare
  rw [bare] at ends
  exact absurd rfl ends

private theorem kept_dropEmptyEnd_open (init : List String) (nonempty : segment ≠ "") :
    kept (dropEmptyEnd (init ++ [segment])) = init ++ [segment] := by
  rw [dropEmptyEnd, if_neg, kept_append init nonempty]
  rintro ⟨-, last⟩
  exact getLast?_ne init nonempty last

/-- The base path is kept but for one empty segment at its end, and the only one then left. -/
theorem endpointRoot_written (plain : Plain segments) :
    endpointRoot (written segments) = written (kept (dropEmptyEnd segments)) := by
  cases segments using List.reverseRecOn with
  | nil => rfl
  | append_singleton init last =>
    by_cases empty : last = ""
    · rw [empty, endpointRoot_closed, kept_dropEmptyEnd_closed]
    · have undivided : '/' ∉ last.toList := plain last (List.mem_append_right _ List.mem_cons_self)
      rw [endpointRoot_open init empty undivided, kept_dropEmptyEnd_open init empty]

def segmentEnds : List Char :=
  ['/', '?', '#']

private theorem forall_segmentEnds {p : Char → Prop} :
    (∀ c ∈ segmentEnds, p c) ↔ p '/' ∧ p '?' ∧ p '#' := by
  simp [segmentEnds]

/-- One segment, that a text can be read back from. -/
structure StandsFor (segment : List Char) (text : String) : Prop where
  undivided : ∀ c ∈ segment, c ∉ segmentEnds
  decoded : Text.ofBytes? (Percent.decode segment) = some text

private theorem StandsFor.unique {segment : List Char} {text other : String}
    (stands : StandsFor segment text) (too : StandsFor segment other) : text = other :=
  Option.some.inj (stands.decoded.symm.trans too.decoded)

private theorem segment_unique {segment other rest after : List Char}
    (undivided : ∀ c ∈ segment, c ∉ segmentEnds) (too : ∀ c ∈ other, c ∉ segmentEnds)
    (ends : ∀ c ∈ rest.head?, c ∈ segmentEnds) (endsToo : ∀ c ∈ after.head?, c ∈ segmentEnds)
    (same : segment ++ rest = other ++ after) : segment = other ∧ rest = after := by
  induction segment generalizing other with
  | nil =>
    cases other with
    | nil => exact ⟨rfl, same⟩
    | cons c others =>
      obtain rfl : rest = c :: (others ++ after) := same
      exact absurd (ends c rfl) (too c List.mem_cons_self)
  | cons c others ih =>
    cases other with
    | nil =>
      obtain rfl : c :: (others ++ rest) = after := same
      exact absurd (endsToo c rfl) (undivided c List.mem_cons_self)
    | cons d more =>
      obtain ⟨rfl, later⟩ := List.cons.inj same
      obtain ⟨rfl, follows⟩ := ih (List.forall_mem_cons.mp undivided).2
        (List.forall_mem_cons.mp too).2 later
      exact ⟨rfl, follows⟩

private theorem StandsFor.of_encode {inClass : UInt8 → Bool}
    (reversible : Percent.Reversible inClass)
    (ends : ∀ c ∈ segmentEnds, inClass (UInt8.ofNat c.toNat) = true) (text : String) :
    StandsFor (Percent.encode inClass text.toList) text where
  undivided := by
    intro c member ending
    -- No encoded byte is written with such a sign, so it would be one of the text left as it is.
    have apart : ∀ c ∈ segmentEnds, c ∉ Percent.alphabet := forall_segmentEnds.mpr (by decide)
    obtain ⟨outside, -⟩ := Percent.mem_of_mem_encode reversible.beyond (apart c ending) member
    exact absurd (ends c ending) (Bool.eq_false_iff.mp outside)
  decoded := by
    rw [Percent.decode_encode reversible, String.ofList_toList, Text.ofBytes?_bytes]

private theorem encodeSegment_standsFor (special : Bool) (text : String) :
    StandsFor (encodeSegment special text.toList).toList text := by
  rw [encodeSegment, String.toList_ofList]
  cases special with
  | false =>
    exact .of_encode Percent.inSegment_reversible (forall_segmentEnds.mpr (by decide)) text
  | true =>
    exact .of_encode Percent.inSpecialSegment_reversible (forall_segmentEnds.mpr (by decide)) text

/-- Texts that nothing is dropped from when they become part of an address. -/
def Clean (text : String) : Prop :=
  ∀ c ∈ text.toList, isDropped c = false

instance : Decidable (Clean text) :=
  List.decidableBAll _ _

/-- The names that add no segment to a path. -/
def IsDots (text : String) : Prop :=
  text = "." ∨ text = ".."

instance : Decidable (IsDots text) :=
  inferInstanceAs (Decidable (text = "." ∨ text = ".."))

private theorem extend_of_dots {special : Bool} (dots : IsDots name) :
    extend special segments name = segments :=
  if_pos dots

private theorem extend_of_clean {special : Bool} (clean : Clean name) (named : ¬IsDots name) :
    extend special segments name = push segments (encodeSegment special name.toList) := by
  have whole : (name.toList.filter fun c => !isDropped c) = name.toList := by
    rw [List.filter_eq_self]
    intro c member
    rw [clean c member, Bool.not_false]
  obtain ⟨one, two⟩ := not_or.mp named
  have notOne : name.toList ≠ ['.'] := by
    intro same
    exact one (String.toList_inj.mp same)
  have notTwo : name.toList ≠ ['.', '.'] := by
    intro same
    exact two (String.toList_inj.mp same)
  unfold extend
  rw [whole]
  dsimp only
  rw [if_neg (not_or.mpr ⟨one, two⟩), if_neg notOne, if_neg notTwo]

/-- A name that is its own segment. -/
structure Literal (name : String) : Prop where
  nonempty : name ≠ ""
  clean : Clean name
  named : ¬IsDots name
  encoded : ∀ special, encodeSegment special name.toList = name

private theorem Literal.extend_eq {special : Bool} (literal : Literal name)
    (segments : List String) :
    extend special segments name = kept segments ++ [name] := by
  rw [extend_of_clean literal.clean literal.named, literal.encoded, push_eq]

private theorem Literal.undivided (literal : Literal name) :
    ∀ c ∈ name.toList, c ∉ segmentEnds := by
  have stands := encodeSegment_standsFor true name
  rw [literal.encoded] at stands
  exact stands.undivided

private theorem path_below_of_dots (plain : Plain base.segments) (literal : Literal name)
    (dots : IsDots text) :
    (base.below [name, text]).path.toList = endpointRoot base.path.toList ++ '/' :: name.toList := by
  rw [toList_path, toList_path, endpointRoot_written plain, below]
  simp only [List.foldl_cons, List.foldl_nil]
  rw [extend_of_dots dots, literal.extend_eq, written_append, written_singleton]

private theorem path_below (plain : Plain base.segments) (literal : Literal name)
    (clean : Clean text) (named : ¬IsDots text) :
    (base.below [name, text]).path.toList =
      endpointRoot base.path.toList ++ '/' :: (name.toList ++
        '/' :: (encodeSegment (isSpecial base.scheme) text.toList).toList) := by
  rw [toList_path, toList_path, endpointRoot_written plain, below]
  simp only [List.foldl_cons, List.foldl_nil]
  rw [extend_of_clean clean named, literal.extend_eq, push_eq, kept_append _ literal.nonempty,
    written_append, written_append, written_singleton, written_singleton]
  simp only [List.append_assoc, List.cons_append]

/-- An address with the host of a base address and a path below a root: an endpoint, and in it one
segment that stands for a text. -/
structure Inside (base : Url) (root : List Char) (endpoint text : String) (url : Url) : Prop where
  scheme : url.scheme = base.scheme
  authority : url.authority = base.authority
  path : ∃ segment, StandsFor segment text ∧
    url.path.toList = root ++ '/' :: (endpoint.toList ++ '/' :: segment)

theorem inside_withQuery_iff {query : Option String} :
    Inside base root endpoint text { url with query } ↔ Inside base root endpoint text url :=
  ⟨fun ⟨scheme, authority, path⟩ => ⟨scheme, authority, path⟩,
    fun ⟨scheme, authority, path⟩ => ⟨scheme, authority, path⟩⟩

/-- A text stays in its endpoint unless it reads as a move in the path. -/
theorem inside_below_iff (plain : Plain base.segments) (literal : Literal endpoint)
    (clean : Clean text) :
    Inside base (endpointRoot base.path.toList) endpoint text (base.below [endpoint, text]) ↔
      ¬IsDots text := by
  constructor
  · intro inside dots
    obtain ⟨segment, -, path⟩ := inside.path
    rw [path_below_of_dots plain literal dots] at path
    have long := congrArg List.length path
    simp only [List.length_append, List.length_cons] at long
    omega
  · intro named
    exact ⟨rfl, rfl, _, encodeSegment_standsFor (isSpecial base.scheme) text,
      path_below plain literal clean named⟩

def trailer (url : Url) : List Char :=
  ((url.query.map ("?" ++ ·)).getD "").toList ++ ((url.fragment.map ("#" ++ ·)).getD "").toList

private theorem trailer_ends (url : Url) : ∀ c ∈ url.trailer.head?, c ∈ segmentEnds := by
  rw [trailer]
  cases url.query with
  | some query => simp [segmentEnds]
  | none => cases url.fragment <;> simp [segmentEnds]

private theorem Inside.toList_text (inside : Inside base root endpoint text url) :
    ∃ segment, StandsFor segment text ∧ url.text.toList =
      (base.scheme ++ ":" ++ base.authority).toList ++ root ++
        '/' :: (endpoint.toList ++ '/' :: (segment ++ url.trailer)) := by
  obtain ⟨segment, stands, path⟩ := inside.path
  refine ⟨segment, stands, ?_⟩
  rw [Url.text, inside.scheme, inside.authority]
  simp only [String.toList_append, path, trailer, List.append_assoc, List.cons_append]

theorem Inside.unique {elsewhere otherText : String} (literal : Literal endpoint)
    (literalToo : Literal elsewhere) (inside : Inside base root endpoint text url)
    (too : Inside base root elsewhere otherText other) (same : url.text = other.text) :
    text = otherText := by
  obtain ⟨segment, stands, whole⟩ := inside.toList_text
  obtain ⟨segment', stands', whole'⟩ := too.toList_text
  rw [same, whole'] at whole
  -- Behind the root the endpoint ends at its slash, and the segment where the path does.
  have behind := (List.cons.inj (List.append_cancel_left whole)).2
  obtain ⟨-, follows⟩ := segment_unique literalToo.undivided literal.undivided
    (by simp [segmentEnds]) (by simp [segmentEnds]) behind
  obtain ⟨rfl, -⟩ := segment_unique stands'.undivided stands.undivided other.trailer_ends
    url.trailer_ends (List.cons.inj follows).2
  exact stands.unique stands'

def ownQuery (url : Url) : String :=
  match url.query with
  | none => ""
  | some query => if query.isEmpty then "" else query ++ "&"

theorem query_withParameter (url : Url) (name value : String) :
    (url.withParameter name value).query = some (url.ownQuery ++ name ++ "=" ++ value) :=
  rfl

theorem ownQuery_withParameter (url : Url) (name value : String) :
    (url.withParameter name value).ownQuery = url.ownQuery ++ name ++ "=" ++ value ++ "&" := by
  rw [ownQuery, query_withParameter]
  dsimp only
  rw [if_neg]
  simp [String.isEmpty_iff]

end Url

end ScanWatch
