import Colloquy.Proofs.Json.Slots
import Colloquy.Proofs.Provider.Carrying

/-!
# The events of Anthropic

An event is an object with one type, which says what else counts in it: the delta of a `content_block_delta`, which may hold a text,
and nothing at all where the type is none of the two that are known (`IsEvent`). Types and deltas may stand anywhere in the object,
since its fields are taken from the text before the type is looked at (`fieldsFrom_of_fields`). Errors count too, and an event may be an
array of its parts. All of a payload is read before it is understood, so what it says is that of the value it holds (`Conveys`), and
one that holds no such value says nothing (`conveys_iff`).
-/

namespace Colloquy.Anthropic

open Json
open Json.Record (Fills)

/-! ## What an event says -/

/-- An event that is no error, by the text of its delta. -/
inductive IsEvent : Json → Option String → Prop where
  | delta {fs : List (String × Json)} {d : Json} {t : Option String}
      (htype : fs.filter (·.1 = "type") = [("type", .str "content_block_delta")]) (hdelta : fs.filter (·.1 = "delta") = [("delta", d)])
      (hd : HoldsText "text" d t) : IsEvent (.obj fs) t
  | other {fs : List (String × Json)} {name : String} (htype : fs.filter (·.1 = "type") = [("type", .str name)])
      (hdelta : name ≠ "content_block_delta") (herror : name ≠ "error") : IsEvent (.obj fs) none

/-- A payload is an event that carries a text or none. -/
def IsPayload (payload : List Char) (t : Option String) : Prop :=
  ∃ v, Reader.all (value depthLimit) payload = .ok v ∧ IsEvent v t

/-- What a value holds under a name: its only field of this name, or its only item. -/
inductive Holds (name : String) : Json → Json → Prop where
  | field {fs : List (String × Json)} {v : Json} (h : fs.filter (·.1 = name) = [(name, v)]) : Holds name (.obj fs) v
  | item {v : Json} : Holds name (.arr [v]) v

/-- A value holds nothing under a name: it has no field of this name, or no item. -/
inductive Lacks (name : String) : Json → Prop where
  | field {fs : List (String × Json)} (h : fs.filter (·.1 = name) = []) : Lacks name (.obj fs)
  | item : Lacks name (.arr [])

/-- The text of a delta, if it has one. -/
inductive Speaks : Json → Option String → Prop where
  | lacking {d : Json} (h : Lacks "text" d) : Speaks d none
  | null {d : Json} (h : Holds "text" d .null) : Speaks d none
  | text {d : Json} {t : String} (h : Holds "text" d (.str t)) : Speaks d (some t)

/-- The type and the message of an error, as fields or as items. -/
inductive Blames : Json → String → String → Prop where
  | fields {fs : List (String × Json)} {kind message : String} (hkind : fs.filter (·.1 = "type") = [("type", .str kind)])
      (hmessage : fs.filter (·.1 = "message") = [("message", .str message)]) : Blames (.obj fs) kind message
  | items {kind message : String} : Blames (.arr [.str kind, .str message]) kind message

/-- The type of an event and what else it is made of: an object has a field for its type, an array starts with it. -/
inductive Tagged : Json → String → Json → Prop where
  | fields {fs : List (String × Json)} {name : String} (h : fs.filter (·.1 = "type") = [("type", .str name)]) :
      Tagged (.obj fs) name (.obj (fs.filter (·.1 ≠ "type")))
  | items {name : String} {vs : List Json} : Tagged (.arr (.str name :: vs)) name (.arr vs)

/-- What an event says: the text of its delta, if it is one and has a text; its error, if it is one; and otherwise nothing, whatever
fields it has. Items after another type have no meaning. -/
inductive Means : Json → Except Error (Option String) → Prop where
  | delta {v rest d : Json} {t : Option String} (htag : Tagged v "content_block_delta" rest) (h : Holds "delta" rest d) (hd : Speaks d t) :
      Means v (.ok t)
  | error {v rest d : Json} {kind message : String} (htag : Tagged v "error" rest) (h : Holds "error" rest d)
      (hd : Blames d kind message) : Means v (.error (.api (.stream (kind ++ ": " ++ message))))
  | other {v rest : Json} {name : String} (htag : Tagged v name rest) (hdelta : name ≠ "content_block_delta") (herror : name ≠ "error")
      (hrest : ∀ vs, rest = .arr vs → vs = []) : Means v (.ok none)

/-- What a payload says, if it is a value that is an event. -/
def Conveys (payload : List Char) (said : Except Error (Option String)) : Prop :=
  ∃ v, Reader.all (value depthLimit) payload = .ok v ∧ Means v said

/-- The payload of an event with a text, for one of the blocks of a message. -/
def textPayload (index : UInt64) (t : String) : List Char :=
  "\x7b\"type\":\"content_block_delta\",\"index\":".toList ++ Nat.toDigits 10 index.toNat ++
    ",\"delta\":\x7b\"type\":\"text_delta\",\"text\":".toList ++ printString t.toList ++ "\x7d\x7d".toList

/-- How events are written. -/
def wire : Wire where
  isText t payload := ∃ index, payload = textPayload index t
  isIdle payload := IsPayload payload none

/-! ## Taken from the text -/

variable {depth : Nat} {text rest : List Char} {fs : List (String × Json)}

/-- A type is told by its name. -/
def Names (v : Json) (t : Tag) : Prop :=
  ∃ name, v = .str name ∧ t = tagOf name

theorem tag_eq_ok {t : Tag} : tag text = .ok (t, rest) ↔ ∃ v, value depth text = .ok (v, rest) ∧ Names v t := by
  constructor
  · intro h
    unfold tag stringAs at h
    split at h
    next start htext =>
      obtain ⟨⟨name, later⟩, hbody, h⟩ := bind_eq_ok.mp h
      cases h
      exact ⟨.str name, value_eq_ok.mpr (.string htext hbody), name, rfl, rfl⟩
    · exact absurd h Record.wrongType_ne_ok
  · rintro ⟨_, hvalue, name, rfl, rfl⟩
    exact follows_stringAs _ _ hvalue ⟨name, rfl, rfl⟩

/-- The type of an event and its other fields, in their order. -/
theorem fieldsFrom_of_fields {first : Bool} (hfs : Fields (value depth) first text fs rest) {found found' : Option Tag}
    (htype : Fills "type" Names fs found found') {steps : List Char} (done : List (String × Json)) (hsteps : fs.length < steps.length) :
    fieldsFrom depth steps first found done text = .ok ((found', done.reverse ++ fs.filter (·.1 ≠ "type")), rest) := by
  induction hfs generalizing found done steps with
  | close hnext =>
    obtain _ | ⟨_, steps⟩ := steps
    · exact absurd hsteps (Nat.not_lt_zero _)
    refine bind_eq_ok.mpr ⟨_, hnext, ?_⟩
    rw [← htype.eq_of_nil, List.filter_nil, List.append_nil]
    rfl
  | @next _ _ _ _ _ _ _ k v fs hnext hk hcolon hv _ ih =>
    obtain _ | ⟨_, steps⟩ := steps
    · exact absurd hsteps (Nat.not_lt_zero _)
    have hmore := Nat.lt_of_succ_lt_succ hsteps
    refine bind_eq_ok.mpr ⟨_, hnext, bind_eq_ok.mpr ⟨_, hk, ?_⟩⟩
    dsimp only
    by_cases hname : k = "type"
    · subst hname
      obtain ⟨t, ht, rfl, rfl, hlater⟩ := htype.exists_of_cons
      rw [if_pos rfl, List.filter_cons_of_neg (by simp)]
      exact bind_eq_ok.mpr ⟨_, hcolon, bind_eq_ok.mpr ⟨_, tag_eq_ok.mpr ⟨v, hv, ht⟩, ih hlater done hmore⟩⟩
    · rw [if_neg hname, List.filter_cons_of_pos (by simpa using hname)]
      have hlater := ih (htype.of_cons hname) ((k, v) :: done) hmore
      rw [List.reverse_cons, List.append_assoc, List.singleton_append] at hlater
      exact bind_eq_ok.mpr ⟨_, hcolon, bind_eq_ok.mpr ⟨_, hv, hlater⟩⟩

/-- No other fields are taken. -/
theorem fields_of_fieldsFrom {steps : List Char} {first : Bool} {found found' : Option Tag} {done all : List (String × Json)}
    (h : fieldsFrom depth steps first found done text = .ok ((found', all), rest)) :
    ∃ fs, Fields (value depth) first text fs rest ∧ Fills "type" Names fs found found' ∧
      all = done.reverse ++ fs.filter (·.1 ≠ "type") := by
  induction steps generalizing first found done text with
  | nil => cases h
  | cons _ steps ih =>
    obtain ⟨⟨more, start⟩, hnext, h⟩ := bind_eq_ok.mp h
    dsimp only at h
    split at h
    next hmore =>
      rw [hmore] at hnext
      obtain ⟨⟨k, afterKey⟩, hk, h⟩ := bind_eq_ok.mp h
      dsimp only at h
      by_cases hname : k = "type"
      · rw [if_pos hname] at h
        split at h
        · cases h
        next hfree =>
          have hnone : found = none := by simpa using hfree
          obtain ⟨start', hcolon, h⟩ := bind_eq_ok.mp h
          obtain ⟨⟨t, after⟩, htag, h⟩ := bind_eq_ok.mp h
          obtain ⟨v, hv, ht⟩ := tag_eq_ok.mp htag
          obtain ⟨fs, hfs, hfills, rfl⟩ := ih h
          subst hname hnone
          exact ⟨("type", v) :: fs, .next hnext hk hcolon hv hfs, hfills.cons_self ht, by rw [List.filter_cons_of_neg (by simp)]⟩
      · rw [if_neg hname] at h
        obtain ⟨start', hcolon, h⟩ := bind_eq_ok.mp h
        obtain ⟨⟨v, after⟩, hv, h⟩ := bind_eq_ok.mp h
        obtain ⟨fs, hfs, hfills, rfl⟩ := ih h
        refine ⟨(k, v) :: fs, .next hnext hk hcolon hv hfs, hfills.cons hname, ?_⟩
        rw [List.filter_cons_of_pos (by simpa using hname), List.reverse_cons, List.append_assoc, List.singleton_append]
    next hmore =>
      rw [Bool.eq_false_iff.mpr hmore] at hnext
      cases h
      exact ⟨[], .close hnext, .stay rfl, by simp⟩

/-- The items of an event that is an array, after its type. -/
theorem itemsAfterTag_eq_ok {t : Tag} {vs : List Json} :
    itemsAfterTag depth text = .ok (t, vs, rest) ↔ ∃ v, Items (value depth) true text (v :: vs) rest ∧ Names v t := by
  unfold itemsAfterTag
  constructor
  · intro h
    obtain ⟨⟨more, start⟩, hnext, h⟩ := bind_eq_ok.mp h
    dsimp only at h
    split at h
    next hmore =>
      rw [hmore] at hnext
      obtain ⟨⟨t', after⟩, htag, h⟩ := bind_eq_ok.mp h
      obtain ⟨⟨values, later⟩, hitems, h⟩ := bind_eq_ok.mp h
      cases h
      obtain ⟨v, hv, ht⟩ := tag_eq_ok.mp htag
      obtain ⟨_, rfl, hvs⟩ := items_of_itemsFrom hitems
      exact ⟨v, .next hnext hv hvs, ht⟩
    · cases h
  · rintro ⟨v, hitems, ht⟩
    cases hitems with
    | next hnext hv hvs =>
      have hlength := hvs.length length_of_value
      refine bind_eq_ok.mpr ⟨_, hnext, bind_eq_ok.mpr ⟨_, tag_eq_ok.mpr ⟨v, hv, ht⟩, ?_⟩⟩
      exact bind_eq_ok.mpr ⟨_, itemsFrom_of_items hvs [] (by omega), rfl⟩

/-! ## Found among the fields -/

section Shape

variable {β : Type} {names : List String} {name : String} {item : Json → Except Fault β} {found found' : List (String × β)}

/-- What is gathered under a name is the value of the only field of this name. -/
theorem fills_of_gatherFields (h : gatherFields names item found fs = .ok found') (hname : name ∈ names) :
    Fills name (fun v b => item v = .ok b) fs (found.lookup name) (found'.lookup name) := by
  induction fs generalizing found with
  | nil =>
    cases h
    exact .stay rfl
  | cons f fs ih =>
    obtain ⟨k, v⟩ := f
    rw [gatherFields] at h
    split at h
    next hk =>
      split at h
      · cases h
      next hfree =>
        obtain ⟨b, hb, h⟩ := bind_eq_ok.mp h
        have hlater := ih h
        by_cases hsame : k = name
        · subst hsame
          have hnone : found.lookup k = none := Option.not_isSome_iff_eq_none.mp hfree
          rw [List.lookup_cons_self] at hlater
          rw [hnone]
          exact hlater.cons_self hb
        · have hother : (name == k) = false := by simpa using Ne.symm hsame
          rw [List.lookup_cons, hother] at hlater
          exact hlater.cons hsame
    next hk =>
      have hother : k ≠ name := by
        rintro rfl
        exact hk (by simpa using hname)
      exact (ih h).cons hother

/-- Fields are gathered if none is there twice and all are as they should be. -/
theorem exists_gatherFields (h : ∀ name ∈ names, ∃ o, Fills name (fun v b => item v = .ok b) fs (found.lookup name) o) :
    ∃ found', gatherFields names item found fs = .ok found' := by
  induction fs generalizing found with
  | nil => exact ⟨found, rfl⟩
  | cons f fs ih =>
    obtain ⟨k, v⟩ := f
    rw [gatherFields]
    split
    next hk =>
      obtain ⟨_, hfill⟩ := h k (by simpa using hk)
      obtain ⟨b, hb, hnone, rfl, hlater⟩ := hfill.exists_of_cons
      rw [if_neg (by simp [hnone])]
      obtain ⟨found', hfound'⟩ := @ih ((k, b) :: found) fun name hname => by
        by_cases hsame : k = name
        · subst hsame
          exact ⟨some b, by rwa [List.lookup_cons_self]⟩
        · have hother : (name == k) = false := by simpa using Ne.symm hsame
          obtain ⟨o, ho⟩ := h name hname
          exact ⟨o, by rw [List.lookup_cons, hother]; exact ho.of_cons hsame⟩
      exact ⟨found', bind_eq_ok.mpr ⟨b, hb, hfound'⟩⟩
    next hk =>
      refine ih fun name hname => ?_
      obtain ⟨o, ho⟩ := h name hname
      have hother : k ≠ name := by
        rintro rfl
        exact hk (by simpa using hname)
      exact ⟨o, ho.of_cons hother⟩

/-- All are taken, one after the other. -/
theorem mapM_eq_ok {γ : Type} {f : γ → Except Fault β} {meaning : γ → β → Prop} {cs : List γ} {bs : List β}
    (h : ∀ c ∈ cs, ∀ b, f c = .ok b ↔ meaning c b) : cs.mapM f = .ok bs ↔ List.Forall₂ meaning cs bs := by
  induction cs generalizing bs with
  | nil => cases bs <;> simp [pure, Except.pure]
  | cons c cs ih =>
    have hc := h c List.mem_cons_self
    have hcs {bs : List β} := @ih bs fun c hc => h c (List.mem_cons_of_mem _ hc)
    rw [List.mapM_cons, bind_eq_ok]
    constructor
    · rintro ⟨b, hb, hmore⟩
      obtain ⟨bs', hbs, hdone⟩ := bind_eq_ok.mp hmore
      cases hdone
      exact .cons ((hc b).mp hb) (hcs.mp hbs)
    · rintro (_ | ⟨hb, hbs⟩)
      exact ⟨_, (hc _).mpr hb, bind_eq_ok.mpr ⟨_, hcs.mpr hbs, rfl⟩⟩

/-- The fields of an object: each is there once, or its absence has a meaning. -/
theorem shape_obj_eq_ok {title : String} {absent : Option β} {bs : List β} :
    shape title names absent item (.obj fs) = .ok bs ↔
      List.Forall₂ (fun name b => ∃ o, Fills name (fun v b => item v = .ok b) fs none o ∧ (o <|> absent) = some b) names bs := by
  have hslot {found : List (String × β)} (hfound : gatherFields names item [] fs = .ok found) {name : String} (hname : name ∈ names)
      (b : β) : (found.lookup name <|> absent) = some b ↔
        ∃ o, Fills name (fun v b => item v = .ok b) fs none o ∧ (o <|> absent) = some b := by
    have hfills := fills_of_gatherFields hfound hname
    constructor
    · exact fun h => ⟨_, hfills, h⟩
    · rintro ⟨o, ho, h⟩
      rwa [hfills.unique (fun hb hb' => Except.ok.inj (hb.symm.trans hb')) ho]
  constructor
  · intro h
    obtain ⟨found, hfound, h⟩ := bind_eq_ok.mp h
    refine (mapM_eq_ok fun name hname b => ?_).mp h
    rw [← hslot hfound hname]
    cases found.lookup name <|> absent <;> simp
  · intro h
    have hslots : ∀ name ∈ names, ∃ o, Fills name (fun v b => item v = .ok b) fs none o := by
      clear hslot
      induction h with
      | nil => exact fun _ hname => absurd hname List.not_mem_nil
      | cons hb _ ih =>
        obtain ⟨o, ho, -⟩ := hb
        exact List.forall_mem_cons.mpr ⟨⟨o, ho⟩, ih⟩
    obtain ⟨found, hfound⟩ := @exists_gatherFields _ _ _ item [] hslots
    refine bind_eq_ok.mpr ⟨found, hfound, (mapM_eq_ok fun name hname b => ?_).mpr h⟩
    rw [← hslot hfound hname]
    cases found.lookup name <|> absent <;> simp

/-- The items of an array: there are none left over, and those that are missing have a meaning. -/
theorem shape_arr_eq_ok {title : String} {absent : Option β} {vs : List Json} {bs : List β} :
    shape title names absent item (.arr vs) = .ok bs ↔
      ∃ found, List.Forall₂ (fun v b => item v = .ok b) vs found ∧
        (vs.length = names.length ∧ bs = found ∨
          vs.length < names.length ∧ ∃ b, absent = some b ∧ bs = found ++ List.replicate (names.length - vs.length) b) := by
  constructor
  · intro h
    obtain ⟨found, hfound, h⟩ := bind_eq_ok.mp h
    have htaken := (mapM_eq_ok fun _ _ _ => Iff.rfl).mp hfound
    split at h
    · cases h
    next hle =>
      rw [List.take_of_length_le (Nat.le_of_not_lt hle)] at htaken
      refine ⟨found, htaken, ?_⟩
      split at h
      next hlength =>
        cases h
        exact .inl ⟨hlength.symm, rfl⟩
      next hlength =>
        split at h
        · cases h
          exact .inr ⟨by omega, _, rfl, rfl⟩
        · cases h
  · rintro ⟨found, hfound, h⟩
    have hle : vs.length ≤ names.length := by omega
    refine bind_eq_ok.mpr ⟨found, ?_, ?_⟩
    · rw [List.take_of_length_le hle]
      exact (mapM_eq_ok fun _ _ _ => Iff.rfl).mpr hfound
    · rw [if_neg (by omega)]
      rcases h with ⟨hlength, rfl⟩ | ⟨hlength, b, rfl, rfl⟩
      · rw [if_pos hlength.symm]
        rfl
      · rw [if_neg (by omega)]
        rfl

/-- One field, as a field or as an item. -/
theorem shape_one_eq_ok {title : String} {absent : Option β} {v : Json} {bs : List β} :
    shape title [name] absent item v = .ok bs ↔
      ∃ b, bs = [b] ∧ ((∃ d, Holds name v d ∧ item d = .ok b) ∨ Lacks name v ∧ absent = some b) := by
  cases v with
  | obj fs =>
    rw [shape_obj_eq_ok]
    constructor
    · rintro (_ | ⟨⟨o, ho, hb⟩, _ | _⟩)
      refine ⟨_, rfl, ?_⟩
      cases ho with
      | stay hnone => exact .inr ⟨.field hnone, hb⟩
      | take honce hitem =>
        cases hb
        exact .inl ⟨_, .field honce, hitem⟩
    · rintro ⟨b, rfl, ⟨d, ⟨honce⟩, hb⟩ | ⟨⟨hnone⟩, habsent⟩⟩
      · exact .cons ⟨some b, .take honce hb, rfl⟩ .nil
      · exact .cons ⟨none, .stay hnone, habsent⟩ .nil
  | arr vs =>
    rw [shape_arr_eq_ok]
    constructor
    · rintro ⟨found, hfound, ⟨hlength, rfl⟩ | ⟨hlength, b, habsent, rfl⟩⟩
      · obtain ⟨d, rfl⟩ := List.length_eq_one_iff.mp hlength
        obtain _ | ⟨hb, _ | _⟩ := hfound
        exact ⟨_, rfl, .inl ⟨d, .item, hb⟩⟩
      · obtain rfl : vs = [] := List.eq_nil_of_length_eq_zero (by simpa using hlength)
        cases hfound
        exact ⟨b, rfl, .inr ⟨.item, habsent⟩⟩
    · rintro ⟨b, rfl, ⟨d, ⟨⟩, hb⟩ | ⟨⟨⟩, habsent⟩⟩
      · exact ⟨[b], .cons hb .nil, .inl ⟨rfl, rfl⟩⟩
      · exact ⟨[], .nil, .inr ⟨Nat.zero_lt_one, b, habsent, rfl⟩⟩
  | _ =>
    constructor
    · exact nofun
    · rintro ⟨b, -, ⟨d, h, -⟩ | ⟨h, -⟩⟩ <;> cases h

end Shape

theorem asString_eq_ok {v : Json} {s : String} : asString v = .ok s ↔ v = .str s := by
  cases v <;> simp [asString]

theorem asOptional_eq_ok {v : Json} {o : Option String} :
    asOptional v = .ok o ↔ v = .null ∧ o = none ∨ ∃ s, v = .str s ∧ o = some s := by
  cases v <;> simp [asOptional, asString, Except.map, eq_comm]

theorem deltaText_eq_ok {d : Json} {t : Option String} : deltaText d = .ok t ↔ Speaks d t := by
  unfold deltaText
  constructor
  · intro h
    obtain ⟨bs, hshape, h⟩ := bind_eq_ok.mp h
    cases h
    obtain ⟨o, rfl, ⟨v, hv, ho⟩ | ⟨hlacks, ho⟩⟩ := shape_one_eq_ok.mp hshape
    · rcases asOptional_eq_ok.mp ho with ⟨rfl, rfl⟩ | ⟨s, rfl, rfl⟩
      · exact .null hv
      · exact .text hv
    · cases ho
      exact .lacking hlacks
  · intro h
    cases h with
    | lacking h => exact bind_eq_ok.mpr ⟨_, shape_one_eq_ok.mpr ⟨none, rfl, .inr ⟨h, rfl⟩⟩, rfl⟩
    | null h => exact bind_eq_ok.mpr ⟨_, shape_one_eq_ok.mpr ⟨none, rfl, .inl ⟨_, h, rfl⟩⟩, rfl⟩
    | @text s h => exact bind_eq_ok.mpr ⟨_, shape_one_eq_ok.mpr ⟨some s, rfl, .inl ⟨_, h, rfl⟩⟩, rfl⟩

theorem errorDetail_eq_ok {d : Json} {bs : List String} :
    errorDetail d = .ok bs ↔ ∃ kind message, bs = [kind, message] ∧ Blames d kind message := by
  have hfield {fs : List (String × Json)} {name s : String}
      (h : ∃ o, Fills name (fun v b => asString v = .ok b) fs none o ∧ (o <|> none) = some s) :
      fs.filter (·.1 = name) = [(name, .str s)] := by
    obtain ⟨o, ho, hs⟩ := h
    cases ho with
    | stay => cases hs
    | take honce hb =>
      cases hs
      rwa [asString_eq_ok.mp hb] at honce
  unfold errorDetail
  cases d with
  | obj fs =>
    rw [shape_obj_eq_ok]
    constructor
    · rintro (_ | ⟨hkind, _ | ⟨hmessage, _ | _⟩⟩)
      exact ⟨_, _, rfl, .fields (hfield hkind) (hfield hmessage)⟩
    · rintro ⟨kind, message, rfl, ⟨hkind, hmessage⟩⟩
      exact .cons ⟨_, .take hkind rfl, rfl⟩ (.cons ⟨_, .take hmessage rfl, rfl⟩ .nil)
  | arr vs =>
    rw [shape_arr_eq_ok]
    constructor
    · rintro ⟨found, hfound, ⟨hlength, rfl⟩ | ⟨-, b, hb, -⟩⟩
      · obtain ⟨v, w, rfl⟩ := List.length_eq_two.mp hlength
        obtain _ | ⟨hkind, _ | ⟨hmessage, _ | _⟩⟩ := hfound
        refine ⟨_, _, rfl, ?_⟩
        rw [asString_eq_ok.mp hkind, asString_eq_ok.mp hmessage]
        exact .items
      · cases hb
    · rintro ⟨kind, message, rfl, ⟨⟩⟩
      exact ⟨_, .cons rfl (.cons rfl .nil), .inl ⟨rfl, rfl⟩⟩
  | _ =>
    constructor
    · exact nofun
    · rintro ⟨kind, message, -, h⟩
      cases h

/-! ## What is read -/

theorem Tagged.unique {v rest rest' : Json} {name name' : String} (h : Tagged v name rest) (h' : Tagged v name' rest') :
    name' = name ∧ rest' = rest := by
  cases h with
  | fields honce =>
    cases h' with
    | fields honce' =>
      cases honce.symm.trans honce'
      exact ⟨rfl, rfl⟩
  | items =>
    cases h'
    exact ⟨rfl, rfl⟩

/-- An event of a type is made of what the type calls for. -/
theorem eventOf_eq_ok {v parts : Json} {name : String} (htag : Tagged v name parts) {said : Except Error (Option String)} :
    (∃ e, eventOf (tagOf name) parts = .ok e ∧ textOf e = said) ↔ Means v said := by
  constructor
  · rintro ⟨e, he, rfl⟩
    unfold tagOf at he
    split at he
    next hdelta =>
      subst hdelta
      obtain ⟨texts, hshape, he⟩ := bind_eq_ok.mp he
      cases he
      obtain ⟨t, rfl, ⟨d, hd, ht⟩ | ⟨-, ht⟩⟩ := shape_one_eq_ok.mp hshape
      · exact .delta htag hd (deltaText_eq_ok.mp ht)
      · cases ht
    split at he
    next herror =>
      subst herror
      obtain ⟨details, hshape, he⟩ := bind_eq_ok.mp he
      obtain ⟨detail, rfl, ⟨d, hd, hdetail⟩ | ⟨-, hdetail⟩⟩ := shape_one_eq_ok.mp hshape
      · obtain ⟨kind, message, rfl, hblames⟩ := errorDetail_eq_ok.mp hdetail
        cases he
        exact .error htag hd hblames
      · cases hdetail
    next hdelta herror =>
      unfold eventOf at he
      dsimp only at he
      split at he
      · cases he
      next hitems =>
        cases he
        refine .other htag hdelta herror fun vs hvs => ?_
        cases vs with
        | nil => rfl
        | cons v vs => exact absurd hvs (hitems v vs)
  · intro h
    cases h with
    | delta htag' hd ht =>
      obtain ⟨rfl, rfl⟩ := htag.unique htag'
      exact ⟨.text _, bind_eq_ok.mpr ⟨_, shape_one_eq_ok.mpr ⟨_, rfl, .inl ⟨_, hd, deltaText_eq_ok.mpr ht⟩⟩, rfl⟩, rfl⟩
    | error htag' hd hblames =>
      obtain ⟨rfl, rfl⟩ := htag.unique htag'
      have hdetail := errorDetail_eq_ok.mpr ⟨_, _, rfl, hblames⟩
      exact ⟨.error _ _, bind_eq_ok.mpr ⟨_, shape_one_eq_ok.mpr ⟨_, rfl, .inl ⟨_, hd, hdetail⟩⟩, rfl⟩, rfl⟩
    | other htag' hdelta herror hitems =>
      obtain ⟨rfl, rfl⟩ := htag.unique htag'
      refine ⟨.other, ?_, rfl⟩
      rw [tagOf, if_neg hdelta, if_neg herror]
      cases htag with
      | fields => rfl
      | items =>
        rw [hitems _ rfl]
        rfl

/-- What is read as an event is a value that has a type, and its event is that of the type and the rest. -/
theorem event_eq_ok {e : Event} :
    event depth text = .ok (e, rest) ↔
      ∃ v name parts, value depth text = .ok (v, rest) ∧ Tagged v name parts ∧ eventOf (tagOf name) parts = .ok e := by
  constructor
  · intro h
    unfold event at h
    split at h
    next start htext =>
      split at h
      · cases h
      next inner =>
        obtain ⟨⟨⟨found, fields⟩, later⟩, hfields, h⟩ := bind_eq_ok.mp h
        dsimp only at h
        split at h
        · cases h
        next t =>
          obtain ⟨e', he, h⟩ := bind_eq_ok.mp h
          cases h
          obtain ⟨fs, hfs, hfills, rfl⟩ := fields_of_fieldsFrom hfields
          cases hfills with
          | take honce ht =>
            obtain ⟨name, rfl, rfl⟩ := ht
            exact ⟨_, name, _, value_eq_ok.mpr (.object htext hfs), .fields honce, he⟩
    next start htext =>
      split at h
      · cases h
      next inner =>
        obtain ⟨⟨t, values, later⟩, hitems, h⟩ := bind_eq_ok.mp h
        obtain ⟨e', he, h⟩ := bind_eq_ok.mp h
        cases h
        obtain ⟨_, hvs, name, rfl, rfl⟩ := itemsAfterTag_eq_ok.mp hitems
        exact ⟨_, name, _, value_eq_ok.mpr (.array htext hvs), .items, he⟩
    · exact absurd h Record.wrongType_ne_ok
  · rintro ⟨v, name, parts, hvalue, ⟨honce⟩ | -, he⟩
    · cases value_eq_ok.mp hvalue with
      | object htext hfs =>
        have hlength := hfs.length length_of_value
        have hfields := fieldsFrom_of_fields hfs (.take honce ⟨name, rfl, rfl⟩) [] (Nat.lt_of_le_of_lt (Nat.le_add_right _ _) hlength)
        rw [event, htext]
        exact bind_eq_ok.mpr ⟨_, hfields, bind_eq_ok.mpr ⟨_, he, rfl⟩⟩
    · cases value_eq_ok.mp hvalue with
      | array htext hvs =>
        rw [event, htext]
        exact bind_eq_ok.mpr ⟨_, itemsAfterTag_eq_ok.mpr ⟨_, hvs, name, rfl, rfl⟩, bind_eq_ok.mpr ⟨_, he, rfl⟩⟩

/-- Whatever says something is understood, and nothing else is. -/
theorem conveys_iff {payload : List Char} {said : Except Error (Option String)} :
    Conveys payload said ↔ ∃ e, reader payload = .ok e ∧ textOf e = said := by
  have hread {e : Event} : reader payload = .ok e ↔ Reader.all (event depthLimit) payload = .ok e := mapError_eq_ok
  constructor
  · rintro ⟨v, hv, hmeans⟩
    obtain ⟨rest, hvalue, hend⟩ := all_eq_ok.mp hv
    obtain ⟨name, parts, htag⟩ : ∃ name parts, Tagged v name parts := by
      cases hmeans with
      | delta htag => exact ⟨_, _, htag⟩
      | error htag => exact ⟨_, _, htag⟩
      | other htag => exact ⟨_, _, htag⟩
    obtain ⟨e, he, htext⟩ := (eventOf_eq_ok htag).mpr hmeans
    exact ⟨e, hread.mpr (all_eq_ok.mpr ⟨rest, event_eq_ok.mpr ⟨v, name, parts, hvalue, htag, he⟩, hend⟩), htext⟩
  · rintro ⟨e, he, htext⟩
    obtain ⟨rest, hevent, hend⟩ := all_eq_ok.mp (hread.mp he)
    obtain ⟨v, name, parts, hvalue, htag, he⟩ := event_eq_ok.mp hevent
    exact ⟨v, all_eq_ok.mpr ⟨rest, hvalue, hend⟩, (eventOf_eq_ok htag).mp ⟨e, he, htext⟩⟩

/-- An event that is no error says its text. -/
theorem IsEvent.means {v : Json} {t : Option String} (h : IsEvent v t) : Means v (.ok t) := by
  have hother {fs : List (String × Json)} {name : String} (hname : name ≠ "type") :
      (fs.filter (·.1 ≠ "type")).filter (·.1 = name) = fs.filter (·.1 = name) := by
    rw [List.filter_filter]
    refine List.filter_congr fun f _ => ?_
    by_cases hf : f.1 = name
    · simp [hf, hname]
    · simp [hf]
  cases h with
  | delta htype hdelta hd =>
    rw [← hother (by decide)] at hdelta
    refine .delta (.fields htype) (.field hdelta) ?_
    cases hd with
    | absent h => exact .lacking (.field h)
    | null h => exact .null (.field h)
    | text h => exact .text (.field h)
  | other htype hdelta herror => exact .other (.fields htype) hdelta herror nofun

/-- Whatever is an event is understood as one. -/
theorem IsPayload.tells {payload : List Char} {t : Option String} (h : IsPayload payload t) (endpoint : Endpoint) (maxTokens : Nat)
    (request : ChatRequest) :
    Tells (dialect endpoint maxTokens request).reader (dialect endpoint maxTokens request).text payload t := by
  obtain ⟨v, hv, ht⟩ := h
  obtain ⟨fs, rfl⟩ : ∃ fs, v = .obj fs := by cases ht <;> exact ⟨_, rfl⟩
  exact ⟨ne_done_of_object hv, conveys_iff.mp ⟨_, hv, ht.means⟩⟩

/-! ## What is written -/

/-- The event with a text, as a value. -/
def textEvent (index : UInt64) (t : String) : Json :=
  .obj [("type", .str "content_block_delta"), ("index", .nat index.toNat),
    ("delta", .obj [("type", .str "text_delta"), ("text", .str t)])]

theorem textPayload_eq (index : UInt64) (t : String) : textPayload index t = print (textEvent index t) := by
  have hfront : "\x7b\"type\":\"content_block_delta\",\"index\":".toList = '{' :: (printString "type".toList ++
      ':' :: (printString "content_block_delta".toList ++ ',' :: (printString "index".toList ++ [':']))) := by decide +kernel
  have hmiddle : ",\"delta\":\x7b\"type\":\"text_delta\",\"text\":".toList = ',' :: (printString "delta".toList ++
      ':' :: '{' :: (printString "type".toList ++ ':' :: (printString "text_delta".toList ++
        ',' :: (printString "text".toList ++ [':'])))) := by decide +kernel
  have hback : "\x7d\x7d".toList = ['}', '}'] := rfl
  have hindex : printNumber (.int index.toNat) = Nat.toDigits 10 index.toNat := by
    rw [printNumber, if_neg (by omega), Int.natAbs_natCast]
  unfold textPayload
  simp only [hfront, hmiddle, hback, textEvent, nat, print, hindex, printFields, List.append_assoc, List.cons_append, List.nil_append]

theorem exact_textEvent (index : UInt64) (t : String) : Exact depthLimit (textEvent index t) := by
  have hdelta (depth : Nat) : Exact (depth + 1) (.obj [("type", .str "text_delta"), ("text", .str t)]) :=
    .obj (by simpa using ⟨Exact.str _, Exact.str t⟩)
  have hindex (depth : Nat) : Exact depth (.nat index.toNat) := .int (by omega) (by have := index.toNat_lt; omega)
  exact .obj (by simpa using ⟨Exact.str _, hindex _, hdelta _⟩)

theorem isPayload_textPayload (index : UInt64) (t : String) : IsPayload (textPayload index t) (some t) := by
  rw [textPayload_eq]
  exact ⟨_, all_print (exact_textEvent index t), .delta rfl rfl (.text rfl)⟩

/-- The events of the vendor are understood by its provider. -/
theorem wire_isUnderstood (endpoint : Endpoint) (maxTokens : Nat) (request : ChatRequest) :
    wire.IsUnderstood (dialect endpoint maxTokens request).reader (dialect endpoint maxTokens request).text where
  reads := by
    rintro t _ ⟨index, rfl⟩
    exact (isPayload_textPayload index t).tells endpoint maxTokens request
  plain := by
    rintro t _ ⟨index, rfl⟩
    rw [textPayload_eq]
    exact isPlain_print (exact_textEvent index t)
  passes h := IsPayload.tells h endpoint maxTokens request

end Colloquy.Anthropic
