import Mathlib.Data.Set.Card
import Reattempt.Proofs.Comparison
import Reattempt.Result
import Reattempt.Value.Digest

/-!
# Equality and hashes

The content of a value is what is left of it once the kinds of numbers are forgotten and faults are reduced to
what tells them apart. Values are equal just if they have one content, and their digests are computed from it.
So equality is an equivalence that hashes respect, and a set has one member for every content.
-/
namespace Reattempt

inductive Content where
  | nothing
  | number (x : Extent)
  | text (s : String)
  | bytes (bs : List UInt8)
  | tuple (cs : List Content)
  | place (id : Identity)
  | classOf (c : FaultClass)
  | ok (c : Content)
  | err (c : Content)

namespace Value

/-- Results and tuples, nested as they may be, over what is hashed and equal to itself. -/
inductive Plain : Value → Prop where
  | none : Plain .none
  | num {n : Number} (h : n ≠ .real .nan) : Plain (.num n)
  | str (s : String) : Plain (.str s)
  | bytes (bs : List UInt8) : Plain (.bytes bs)
  | fault (f : Fault) : Plain (.fault f)
  | cls (c : FaultClass) : Plain (.cls c)
  | tuple {vs : List Value} (h : ∀ v ∈ vs, Plain v) : Plain (.tuple vs)
  | ok {v : Value} (h : Plain v) : Plain (.ok v)
  | err {v : Value} (h : Plain v) : Plain (.err v)

/-- A list or a dictionary at some depth. -/
inductive Unhashable : Value → Prop where
  | list (vs : List Value) : Unhashable (.list vs)
  | dict (es : List (Value × Value)) : Unhashable (.dict es)
  | tuple {v : Value} {vs : List Value} (hv : v ∈ vs) (h : Unhashable v) : Unhashable (.tuple vs)
  | ok {v : Value} (h : Unhashable v) : Unhashable (.ok v)
  | err {v : Value} (h : Unhashable v) : Unhashable (.err v)

mutual

/-- Lists and dictionaries can change, and a not-a-number differs from itself: they have no content. -/
def content? : Value → Option Content
  | .none => some .nothing
  | .num n => n.extent?.map .number
  | .str s => some (.text s)
  | .bytes bs => some (.bytes bs)
  | .tuple vs => (contentList? vs).map .tuple
  | .fault f => some (.place f.id)
  | .cls c => some (.classOf c)
  | .ok v => (content? v).map .ok
  | .err v => (content? v).map .err
  | .list _ | .dict _ | .awaitable _ => Option.none

def contentList? : List Value → Option (List Content)
  | [] => some []
  | v :: vs => (content? v).bind fun c => (contentList? vs).map (c :: ·)

end

@[simp] theorem contentList?_nil : contentList? [] = some [] := by rw [contentList?]

theorem contentList?_cons {v : Value} {vs : List Value} {cs : List Content} :
    contentList? (v :: vs) = some cs ↔
      ∃ c ds, v.content? = some c ∧ contentList? vs = some ds ∧ c :: ds = cs := by
  simp only [contentList?, Option.bind_eq_some_iff, Option.map_eq_some_iff, exists_and_left]

theorem contentList?_of_forall {vs : List Value} (h : ∀ v ∈ vs, ∃ c, v.content? = some c) :
    ∃ cs, contentList? vs = some cs := by
  induction vs with
  | nil => exact ⟨[], contentList?_nil⟩
  | cons v vs ih =>
    obtain ⟨c, hc⟩ := h v List.mem_cons_self
    obtain ⟨cs, hcs⟩ := ih fun w hw => h w (List.mem_cons_of_mem v hw)
    exact ⟨c :: cs, contentList?_cons.mpr ⟨c, cs, hc, hcs, rfl⟩⟩

theorem Plain.content {v : Value} (h : v.Plain) : ∃ c, v.content? = some c := by
  induction h with
  | none => exact ⟨_, rfl⟩
  | @num n h =>
    obtain ⟨x, hx⟩ := Option.isSome_iff_exists.mp (Number.extent?_isSome.mpr h)
    exact ⟨.number x, by rw [content?, hx]; rfl⟩
  | str | bytes | fault | cls => exact ⟨_, by rw [content?]⟩
  | tuple h ih =>
    obtain ⟨cs, hcs⟩ := contentList?_of_forall ih
    exact ⟨.tuple cs, by rw [content?, hcs]; rfl⟩
  | ok h ih =>
    obtain ⟨c, hc⟩ := ih
    exact ⟨.ok c, by rw [content?, hc]; rfl⟩
  | err h ih =>
    obtain ⟨c, hc⟩ := ih
    exact ⟨.err c, by rw [content?, hc]; rfl⟩

/-! ## Equality -/

theorem num_eq_num {m n : Number} {x : Extent} (hm : m.extent? = some x) :
    m.eq n = true ↔ n.extent? = some x := by
  simp only [Number.eq, hm]
  cases n.extent? with
  | none => simp
  | some y => simp [eq_comm]

mutual

/-- What a value with a content is equal to is just what has that content. -/
theorem eq_iff_content : ∀ {a b : Value} {x : Content}, a.content? = some x →
    (a.eq b = true ↔ b.content? = some x)
  | .none, b, _, h => by cases h; cases b <;> simp [eq, content?]
  | .str s, b, _, h => by cases h; cases b <;> simp [eq, content?, eq_comm]
  | .bytes bs, b, _, h => by cases h; cases b <;> simp [eq, content?, eq_comm]
  | .fault f, b, _, h => by cases h; cases b <;> simp [eq, content?, eq_comm]
  | .cls c, b, _, h => by cases h; cases b <;> simp [eq, content?, eq_comm]
  | .num m, b, _, h => by
    obtain ⟨x, hx, rfl⟩ := Option.map_eq_some_iff.mp h
    cases b <;> simp [eq, content?, num_eq_num hx]
  | .tuple vs, b, _, h => by
    obtain ⟨xs, hxs, rfl⟩ := Option.map_eq_some_iff.mp h
    cases b <;> simp [eq, content?, eqList_iff_content hxs]
  | .ok v, b, _, h => by
    obtain ⟨x, hx, rfl⟩ := Option.map_eq_some_iff.mp h
    cases b <;> simp [eq, content?, eq_iff_content hx]
  | .err v, b, _, h => by
    obtain ⟨x, hx, rfl⟩ := Option.map_eq_some_iff.mp h
    cases b <;> simp [eq, content?, eq_iff_content hx]
  | .list _, _, _, h => by cases h
  | .dict _, _, _, h => by cases h
  | .awaitable _, _, _, h => by cases h

theorem eqList_iff_content : ∀ {as bs : List Value} {xs : List Content}, contentList? as = some xs →
    (eqList as bs = true ↔ contentList? bs = some xs)
  | [], [], _, h => by cases h; simp [eqList, contentList?]
  | [], b :: bs, _, h => by cases h; simp [eqList, contentList?_cons]
  | a :: as, [], _, h => by
    obtain ⟨x, xs, -, -, rfl⟩ := contentList?_cons.mp h
    simp [eqList]
  | a :: as, b :: bs, _, h => by
    obtain ⟨x, xs, hx, hxs, rfl⟩ := contentList?_cons.mp h
    rw [eqList, Bool.and_eq_true, eq_iff_content hx, eqList_iff_content hxs, contentList?_cons]
    simp

end

theorem eq_self {a : Value} (h : a.Plain) : a.eq a = true := by
  obtain ⟨x, hx⟩ := h.content
  exact (eq_iff_content hx).mpr hx

theorem eq_comm_of_plain {a b : Value} (ha : a.Plain) (hb : b.Plain) : a.eq b = b.eq a := by
  obtain ⟨x, hx⟩ := ha.content
  obtain ⟨y, hy⟩ := hb.content
  rw [Bool.eq_iff_iff, eq_iff_content hx, eq_iff_content hy, hx, hy]
  exact eq_comm

theorem eq_trans_of_plain {a b c : Value} (ha : a.Plain) (hab : a.eq b) (hbc : b.eq c) :
    a.eq c = true := by
  obtain ⟨x, hx⟩ := ha.content
  have hbx := (eq_iff_content hx).mp hab
  rw [eq_iff_content hbx] at hbc
  exact (eq_iff_content hx).mpr hbc

/-! ## Hashes -/

end Value

namespace Content

mutual

def digest : Content → Digest
  | .nothing => .nothing
  | .number x => .number (Digest.ofExtent x)
  | .text s => Digest.ofContent (Digest.textUnits s)
  | .bytes bs => Digest.ofContent bs
  | .tuple cs => .tuple (digestList cs)
  | .place id => .place id
  | .classOf c => .classOf c
  | .ok c => .tuple [Digest.ofContent (Digest.textUnits "Ok"), digest c]
  | .err c => .tuple [Digest.ofContent (Digest.textUnits "Err"), digest c]

def digestList : List Content → List Digest
  | [] => []
  | c :: cs => digest c :: digestList cs

end

theorem agrees_ofContent (bs : List UInt8) : (Digest.ofContent bs).agrees (Digest.ofContent bs) = true := by
  unfold Digest.ofContent
  split <;> simp [Digest.agrees]

mutual

theorem agrees_digest : ∀ c : Content, c.digest.agrees c.digest = true
  | .nothing => by simp [digest, Digest.agrees]
  | .number x => by simp [digest, Digest.agrees]
  | .text s => by rw [digest]; exact agrees_ofContent _
  | .bytes bs => by rw [digest]; exact agrees_ofContent _
  | .tuple cs => by rw [digest, Digest.agrees]; exact agreesList_digestList cs
  | .place id => by simp [digest, Digest.agrees]
  | .classOf c => by simp [digest, Digest.agrees]
  | .ok c => by simp [digest, Digest.agrees, Digest.agreesList, agrees_ofContent, agrees_digest c]
  | .err c => by simp [digest, Digest.agrees, Digest.agreesList, agrees_ofContent, agrees_digest c]

theorem agreesList_digestList : ∀ cs : List Content, Digest.agreesList (digestList cs) (digestList cs) = true
  | [] => by simp [digestList, Digest.agreesList]
  | c :: cs => by simp [digestList, Digest.agreesList, agrees_digest c, agreesList_digestList cs]

end

end Content

namespace Value

mutual

theorem digest_of_content : ∀ {v : Value} {c : Content}, v.content? = some c → v.digest = .ok c.digest
  | .none, _, h => by cases h; rw [digest, Content.digest]
  | .str s, _, h => by cases h; rw [digest, Content.digest]
  | .bytes bs, _, h => by cases h; rw [digest, Content.digest]
  | .fault f, _, h => by cases h; rw [digest, Content.digest]
  | .cls c, _, h => by cases h; rw [digest, Content.digest]
  | .num n, _, h => by
    obtain ⟨x, hx, rfl⟩ := Option.map_eq_some_iff.mp h
    rw [digest, Digest.ofNumber, hx, Content.digest]
  | .tuple vs, _, h => by
    obtain ⟨cs, hcs, rfl⟩ := Option.map_eq_some_iff.mp h
    rw [digest, digestList_of_content hcs, Content.digest]
    rfl
  | .ok v, _, h => by
    obtain ⟨c, hc, rfl⟩ := Option.map_eq_some_iff.mp h
    rw [digest, digest_of_content hc, Content.digest]
    rfl
  | .err v, _, h => by
    obtain ⟨c, hc, rfl⟩ := Option.map_eq_some_iff.mp h
    rw [digest, digest_of_content hc, Content.digest]
    rfl
  | .list _, _, h => by cases h
  | .dict _, _, h => by cases h
  | .awaitable _, _, h => by cases h

theorem digestList_of_content : ∀ {vs : List Value} {cs : List Content}, contentList? vs = some cs →
    digestList vs = .ok (Content.digestList cs)
  | [], _, h => by cases h; rw [digestList, Content.digestList]
  | v :: vs, _, h => by
    obtain ⟨c, cs, hc, hcs, rfl⟩ := contentList?_cons.mp h
    rw [digestList, digest_of_content hc, digestList_of_content hcs, Content.digestList]
    rfl

end

theorem sameHash_of_eq {a b : Value} (h : a.Plain) (hab : a.eq b) : a.sameHash b = true := by
  obtain ⟨c, hc⟩ := h.content
  have hb := (eq_iff_content hc).mp hab
  rw [sameHash, digest_of_content hc, digest_of_content hb]
  exact c.agrees_digest

/-! ### What has no hash -/

mutual

theorem unhashable_of_digest : ∀ {v : Value} {x : Fault}, v.digest = .error x →
    v.Unhashable ∧ x.cls = .typeError
  | .list vs, _, h => by cases h; exact ⟨.list vs, rfl⟩
  | .dict es, _, h => by cases h; exact ⟨.dict es, rfl⟩
  | .tuple vs, _, h => by
    obtain ⟨v, hv, hu, hx⟩ := unhashable_of_digestList (Fault.eq_error_of_map h)
    exact ⟨.tuple hv hu, hx⟩
  | .ok v, _, h => by
    obtain ⟨hu, hx⟩ := unhashable_of_digest (Fault.eq_error_of_map h)
    exact ⟨.ok hu, hx⟩
  | .err v, _, h => by
    obtain ⟨hu, hx⟩ := unhashable_of_digest (Fault.eq_error_of_map h)
    exact ⟨.err hu, hx⟩
  | .none, _, h => by cases h
  | .num _, _, h => by cases h
  | .str _, _, h => by cases h
  | .bytes _, _, h => by cases h
  | .fault _, _, h => by cases h
  | .cls _, _, h => by cases h
  | .awaitable _, _, h => by cases h

theorem unhashable_of_digestList : ∀ {vs : List Value} {x : Fault}, digestList vs = .error x →
    ∃ v ∈ vs, v.Unhashable ∧ x.cls = .typeError
  | [], _, h => by cases h
  | v :: vs, x, h => by
    rw [digestList] at h
    rcases Fault.bind_eq_error h with hv | ⟨d, -, h⟩
    · exact ⟨v, List.mem_cons_self, unhashable_of_digest hv⟩
    rcases Fault.bind_eq_error h with hvs | ⟨ds, -, h⟩
    · obtain ⟨w, hw, hu⟩ := unhashable_of_digestList hvs
      exact ⟨w, List.mem_cons_of_mem v hw, hu⟩
    · cases h

end

theorem digest_of_unhashable {v : Value} (h : v.Unhashable) : ∃ x, v.digest = .error x := by
  induction h with
  | list vs => exact ⟨_, by rw [digest]⟩
  | dict es => exact ⟨_, by rw [digest]⟩
  | @tuple v vs hv h ih =>
    suffices hvs : ∃ x, digestList vs = .error x by
      obtain ⟨x, hx⟩ := hvs
      exact ⟨x, by rw [digest, hx]; rfl⟩
    induction vs with
    | nil => cases hv
    | cons w vs ihs =>
      rw [digestList]
      rcases List.mem_cons.mp hv with rfl | hv
      · exact Fault.exists_bind_eq_error_of_left ih
      · exact Fault.exists_bind_eq_error fun d _ => Fault.exists_bind_eq_error_of_left (ihs hv)
  | ok h ih =>
    obtain ⟨x, hx⟩ := ih
    exact ⟨x, by rw [digest, hx]; rfl⟩
  | err h ih =>
    obtain ⟨x, hx⟩ := ih
    exact ⟨x, by rw [digest, hx]; rfl⟩

theorem digest_eq_error_iff (v : Value) : (∃ x, v.digest = .error x) ↔ v.Unhashable := by
  constructor
  · rintro ⟨x, hx⟩
    exact (unhashable_of_digest hx).1
  · exact digest_of_unhashable

/-! ## Sets -/

/-- A member of a set is taken for a value just if they have one content. -/
theorem taken_iff_content {v w : Value} (hw : w.Plain) :
    (w.sameHash v && w.eq v) = true ↔ w.content? = v.content? := by
  obtain ⟨x, hx⟩ := hw.content
  rw [Bool.and_eq_true, hx, @Eq.comm _ (some x), ← eq_iff_content hx]
  exact ⟨fun h => h.2, fun h => ⟨sameHash_of_eq hw h, h⟩⟩

/-- The members of a set that has been given these contents. -/
structure Holds (seen : List Value) (given : List (Option Content)) : Prop where
  plain : ∀ w ∈ seen, w.Plain
  nodup : (seen.map content?).Nodup
  mem : ∀ c, c ∈ seen.map content? ↔ c ∈ given

theorem Holds.keep {seen : List Value} {given : List (Option Content)} (h : Holds seen given) {v : Value}
    (hv : v.Plain) : Holds (keep seen v) (v.content? :: given) := by
  have htaken : (seen.any fun w => w.sameHash v && w.eq v) = true ↔ v.content? ∈ seen.map content? := by
    rw [List.any_eq_true, List.mem_map]
    exact exists_congr fun w => and_congr_right fun hw => taken_iff_content (h.plain w hw)
  unfold Value.keep
  by_cases hany : (seen.any fun w => w.sameHash v && w.eq v) = true
  · rw [if_pos hany]
    have hin : v.content? ∈ given := (h.mem _).mp (htaken.mp hany)
    refine ⟨h.plain, h.nodup, fun c => ?_⟩
    rw [h.mem, List.mem_cons]
    exact ⟨.inr, fun hc => hc.elim (fun heq => heq ▸ hin) id⟩
  · rw [if_neg hany]
    refine ⟨List.forall_mem_cons.mpr ⟨hv, h.plain⟩,
      List.nodup_cons.mpr ⟨fun hin => hany (htaken.mpr hin), h.nodup⟩, fun c => ?_⟩
    rw [List.map_cons, List.mem_cons, List.mem_cons, h.mem]

theorem Holds.foldl {seen vs : List Value} {given : List (Option Content)} (h : Holds seen given)
    (hvs : ∀ v ∈ vs, v.Plain) : Holds (vs.foldl Value.keep seen) ((vs.map content?).reverse ++ given) := by
  induction vs generalizing seen given with
  | nil => exact h
  | cons v vs ih =>
    have hstep := h.keep (hvs v List.mem_cons_self)
    have hrun := ih hstep fun w hw => hvs w (List.mem_cons_of_mem v hw)
    simpa using hrun

/-- The members of a set have different contents, and all that were put in. -/
theorem contents_setOf {vs : List Value} (h : ∀ v ∈ vs, v.Plain) :
    ((setOf vs).map content?).Nodup ∧ ∀ c, c ∈ (setOf vs).map content? ↔ c ∈ vs.map content? := by
  have hempty : Holds [] [] := ⟨nofun, List.nodup_nil, fun c => Iff.rfl⟩
  have hset := hempty.foldl h
  refine ⟨hset.nodup, fun c => (hset.mem c).trans ?_⟩
  rw [List.append_nil, List.mem_reverse]

/-- All values that a value is equal to. -/
def classOf (v : Value) : Set Value := {w | v.eq w = true}

theorem classOf_of_plain {v : Value} (h : v.Plain) : v.classOf = {w | w.content? = v.content?} := by
  obtain ⟨x, hx⟩ := h.content
  ext w
  rw [classOf, Set.mem_ofPred_eq, Set.mem_ofPred_eq, eq_iff_content hx, hx]

/-- A set has one member for every class of equal values. -/
theorem countDistinct_eq_ncard {vs : List Value} (h : ∀ v ∈ vs, v.Plain) :
    countDistinct vs = (classOf '' {v | v ∈ vs}).ncard := by
  classical
  obtain ⟨hn, hmem⟩ := contents_setOf h
  have hclasses : classOf '' {v | v ∈ vs} =
      (fun c => {w : Value | w.content? = c}) '' (content? '' {v | v ∈ vs}) := by
    rw [Set.image_image]
    exact Set.image_congr fun v hv => classOf_of_plain (h v hv)
  have hcontents : content? '' {v | v ∈ vs} = ((setOf vs).map content?).toFinset := by
    ext c
    rw [List.coe_toFinset, Set.mem_ofPred_eq, hmem]
    simp
  have hinjective : Set.InjOn (fun c => {w : Value | w.content? = c}) (content? '' {v | v ∈ vs}) := by
    rintro _ ⟨v, -, rfl⟩ d - heq
    have hv : v ∈ {w : Value | w.content? = v.content?} := rfl
    exact (Set.ext_iff.mp heq v).mp hv
  rw [hclasses, hinjective.ncard_image, hcontents, Set.ncard_coe_finset,
    List.toFinset_card_of_nodup hn, List.length_map, countDistinct]

/-! ## Results -/

/-- It makes no difference which of two operands comes first. -/
theorem eq_toValue_of_plain {r : Result} {v : Value} (hr : r.payload.Plain) (hv : v.Plain) :
    r.toValue.eq v = r.equals v := by
  cases r with
  | ok a =>
    cases hv with
    | ok hb =>
      rw [Result.toValue, Value.eq, Result.equals]
      exact eq_comm_of_plain hr hb
    | _ => simp [Result.toValue, Value.eq, Result.equals]
  | err a =>
    cases hv with
    | err hb =>
      rw [Result.toValue, Value.eq, Result.equals]
      exact eq_comm_of_plain hr hb
    | _ => simp [Result.toValue, Value.eq, Result.equals]

theorem unhashable_toValue_iff (r : Result) : r.toValue.Unhashable ↔ r.payload.Unhashable := by
  cases r with
  | ok v => exact ⟨fun h => by cases h; assumption, .ok⟩
  | err v => exact ⟨fun h => by cases h; assumption, .err⟩

/-- On results and tuples over plain values, equality is an equivalence that keeps successes, errors and what is
neither apart, and looks at payloads alone. Equal values are hashed alike, so that a set has one member for
every class of equal values. A result has no hash just if there is a list or a dictionary somewhere in it. -/
theorem equality_and_hashes_of_results :
    (∀ a : Value, a.Plain → a.eq a) ∧
    (∀ a b : Value, a.Plain → b.Plain → a.eq b = b.eq a) ∧
    (∀ a b c : Value, a.Plain → b.Plain → c.Plain → a.eq b → b.eq c → a.eq c) ∧
    (∀ a v : Value, ((Value.ok a).eq v ∨ v.eq (.ok a)) → ∃ b, v = .ok b) ∧
    (∀ a v : Value, ((Value.err a).eq v ∨ v.eq (.err a)) → ∃ b, v = .err b) ∧
    (∀ a b : Value, ((Value.ok a).eq (.ok b) ↔ a.eq b) ∧ ((Value.err a).eq (.err b) ↔ a.eq b)) ∧
    (∀ (r : Result) (v : Value), r.payload.Plain → v.Plain → r.toValue.eq v = r.equals v) ∧
    (∀ a b : Value, a.Plain → b.Plain → a.eq b → ∃ d, a.digest = .ok d ∧ b.digest = .ok d ∧ d.agrees d) ∧
    (∀ vs : List Value, (∀ v ∈ vs, v.Plain) → countDistinct vs = (classOf '' {v | v ∈ vs}).ncard) ∧
    ∀ r : Result, ((∃ x, r.toValue.digest = .error x) ↔ r.payload.Unhashable) ∧
      ∀ x, r.toValue.digest = .error x → x.cls = .typeError := by
  refine ⟨fun a => eq_self, fun a b => eq_comm_of_plain, fun a b c ha _ _ => eq_trans_of_plain ha, ?_, ?_,
    ?_, fun r v => eq_toValue_of_plain, ?_, fun vs => countDistinct_eq_ncard, ?_⟩
  · rintro a v (h | h)
    · cases v <;> simp [eq] at h ⊢
    · cases v <;> simp [eq] at h ⊢
  · rintro a v (h | h)
    · cases v <;> simp [eq] at h ⊢
    · cases v <;> simp [eq] at h ⊢
  · intro a b
    rw [eq, eq]
    exact ⟨Iff.rfl, Iff.rfl⟩
  · intro a b ha _ h
    obtain ⟨c, hc⟩ := ha.content
    exact ⟨c.digest, digest_of_content hc, digest_of_content ((eq_iff_content hc).mp h), c.agrees_digest⟩
  · intro r
    refine ⟨?_, fun x hx => (unhashable_of_digest hx).2⟩
    rw [digest_eq_error_iff, unhashable_toValue_iff]

/-- One in three spellings, as a success each time, and once more as an error and by itself. -/
def ones : List Value := [.ok (int 1), .ok (bool true), .ok (real (.ofInt 1)), .err (int 1), int 1]

theorem plain_ones : ∀ v ∈ ones, v.Plain := by
  have hone : ∀ n : Number, n ≠ .real .nan → (Value.num n).Plain := fun n h => .num h
  simp only [ones, List.forall_mem_cons]
  exact ⟨.ok (hone _ nofun), .ok (hone _ nofun), .ok (hone _ (by decide +kernel)), .err (hone _ nofun),
    hone _ nofun, nofun⟩

/-- The three successes are equal, so that there are three classes. -/
theorem ones_are_of_three_classes :
    (∀ v ∈ ones, v.Plain) ∧ countDistinct ones = 3 ∧ (classOf '' {v | v ∈ ones}).ncard = 3 := by
  have hcount : countDistinct ones = 3 := by decide +kernel
  obtain ⟨-, -, -, -, -, -, -, -, hsets, -⟩ := equality_and_hashes_of_results
  exact ⟨plain_ones, hcount, by rw [← hsets ones plain_ones, hcount]⟩

end Value

end Reattempt
