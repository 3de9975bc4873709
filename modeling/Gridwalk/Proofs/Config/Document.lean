import Gridwalk.Config.Document
import Gridwalk.Proofs.Json.Reading
import Gridwalk.Proofs.Symbols.Keys
import Mathlib

/-!
# Settings that are read back

An excerpt of some settings is an object with some of the fields that they are encoded in, in any
order, and with fields of other names (`Config.Excerpt`).

**Theorem (`Config.run_excerpt`).** A text of an excerpt decodes to the settings with the default in
place of each field that is left out. If no field is left out, these are the settings themselves.

Each part of the settings is read back from its encoding. Other fields are skipped, whatever is in
them. The known ones are entered one after another, each into a place of its own, so their order
makes no difference and a place that nothing is entered into keeps its default.
-/

namespace Gridwalk

open Json

/-! ## Parts of settings -/

theorem TileKind.decode_name (k : TileKind) (n : Nat) :
    TileKind.decode n (Value.string k.name).reading = .ok k := by
  cases k <;> rfl

theorem Symbols.decode_encode (s : Symbols) (n : Nat) :
    Symbols.decode (n + 1) s.encode.reading = .ok s := by
  have hentries : decodeMap TileKind.decode (n + 1) s.encode.reading = .ok s.toKeys.entries :=
    decodeMap_object (fun k => k.decode_name n) s.toKeys.entries
  have hkeys : Symbols.ofKeys (.ofList s.toKeys.entries) = .ok s := by
    rw [Table.ofList_entries, ofKeys_eq_ok_iff]
  simp [Symbols.decode, hentries, hkeys, bind, Except.bind, pure, Except.pure]

theorem decodeSeed_natural (seed : UInt64) (n : Nat) :
    decodeSeed n (Value.number (.natural seed.toNat)).reading = .ok seed := by
  have hbound : (seed.toNat : Int) ≤ 0xffffffffffffffff := by
    have hlt := seed.toNat_lt
    omega
  have hint : decodeInt 0 0xffffffffffffffff "u64" n (Value.number (.natural seed.toNat)).reading =
      .ok (seed.toNat : Int) := by
    simp [decodeInt, Value.reading, unread, hbound, bind, Except.bind]
  simp [decodeSeed, hint, Functor.map, Except.map]

theorem decodeWander_seed (seed : UInt64) (n : Nat) :
    decodeWander (n + 1)
        (Value.object [("seed", .number (.natural seed.toNat))]).reading = .ok (.wander seed) := by
  have htakes : wanderShape.Takes n ("seed", .number (.natural seed.toNat)) (some seed) :=
    .known rfl (decodeSeed_natural seed n)
  have hfields : decodeFields wanderShape n []
      (fieldReadings [("seed", .number (.natural seed.toNat))]) = .ok [seed] :=
    decodeFields_of_takes (.cons htakes .nil) (by simp) (by simp)
  simp [decodeWander, decodeRecord, Value.reading, enter, unread, hfields, require, bind,
    Except.bind, pure, Except.pure]

theorem EnemyPolicy.decode_encode (p : EnemyPolicy) (n : Nat) :
    EnemyPolicy.decode (n + 2) p.encode.reading = .ok p := by
  cases p with
  | idle => rfl
  | wander seed => exact decodeEnum_keyed rfl (decodeWander_seed seed n)

namespace Config

theorem decodePath_text (p : Path) (n : Nat) :
    decodePath n (Value.string p.text).reading = .ok p := rfl

/-! ## Excerpts -/

/-- The names of the fields of settings. -/
def ownNames : List String := shape.known.map Prod.fst

/-- The fields are some of those that the settings are encoded in, none of them twice, and any
others. -/
structure Excerpt (c : Config) (fields : List (String × Value)) : Prop where
  own : ∀ e ∈ fields, e.1 ∈ ownNames → e ∈ c.encodeFields
  once : fields.Pairwise fun e e' => e.1 ∈ ownNames → e.1 ≠ e'.1

/-- The settings with the fields of these names taken from other ones. -/
def override (d c : Config) (names : List String) : Config where
  levels := if "levels" ∈ names then c.levels else d.levels
  solutionsDir := if "solutions_dir" ∈ names then c.solutionsDir else d.solutionsDir
  symbols := if "tile_symbols" ∈ names then c.symbols else d.symbols
  enemies := if "enemy_policy" ∈ names then c.enemies else d.enemies

/-- The field of a name. -/
def field? (c : Config) : String → Option Field
  | "levels" => some (.levels c.levels)
  | "solutions_dir" => some (.solutionsDir c.solutionsDir)
  | "tile_symbols" => some (.symbols c.symbols)
  | "enemy_policy" => some (.enemies c.enemies)
  | _ => none

/-! ## Entering fields -/

theorem override_all (d c : Config) {names : List String} (h : ∀ name ∈ ownNames, name ∈ names) :
    d.override c names = c := by
  simp only [ownNames, shape, List.map_cons, List.map_nil, List.forall_mem_cons] at h
  simp [override, h]

theorem override_cons_of_field {c : Config} {name : String} {f : Field} (h : c.field? name = some f)
    (d : Config) (names : List String) :
    (d.put f).override c names = d.override c (name :: names) := by
  unfold field? at h
  split at h
  case h_5 => cases h
  all_goals
    cases h
    simp [override, put]

theorem override_cons_of_none {c : Config} {name : String} (h : c.field? name = none) (d : Config)
    (names : List String) : d.override c names = d.override c (name :: names) := by
  unfold field? at h
  split at h
  case h_5 hlevels hdir hsymbols henemies =>
    simp [override, Ne.symm hlevels, Ne.symm hdir, Ne.symm hsymbols, Ne.symm henemies]
  all_goals cases h

/-- Fields of some settings that are entered into other ones take their places. -/
theorem foldl_put_field? (c d : Config) (names : List String) :
    (names.filterMap c.field?).foldl put d = d.override c names := by
  induction names generalizing d with
  | nil => simp [override]
  | cons name names ih =>
    cases hf : c.field? name with
    | none => rw [List.filterMap_cons_none hf, ih, override_cons_of_none hf]
    | some f => rw [List.filterMap_cons_some hf, List.foldl_cons, ih, override_cons_of_field hf]

/-! ## Decoding -/

/-- Each field is taken from its entry in the encoding. -/
theorem takes_own {c : Config} {e : String × Value} (h : e ∈ c.encodeFields) (n : Nat) :
    shape.Takes (n + 2) e (c.field? e.1) := by
  simp only [encodeFields, List.mem_cons, List.not_mem_nil, or_false] at h
  rcases h with rfl | rfl | rfl | rfl
  · have hlevels := decodeList_array (fun p => decodePath_text p (n + 1)) c.levels
    exact .known rfl (congrArg (Field.levels <$> ·) hlevels)
  · exact .known rfl rfl
  · exact .known rfl (congrArg (Field.symbols <$> ·) (c.symbols.decode_encode (n + 1)))
  · exact .known rfl (congrArg (Field.enemies <$> ·) (c.enemies.decode_encode n))

/-- Nothing is taken from an entry of another name. -/
theorem takes_other (c : Config) {e : String × Value} (h : e.1 ∉ ownNames) (n : Nat) :
    shape.Takes n e (c.field? e.1) := by
  have hnone : c.field? e.1 = none := by
    unfold field?
    split
    case h_5 => rfl
    all_goals
      next hname => exact absurd (by simp [hname, ownNames, shape]) h
  rw [hnone]
  refine .other h ?_
  simp [shape, skipOther, e.2.skip_reading, unread, Functor.map, Except.map]

/-- The fields of an excerpt are decoded one by one. -/
theorem decodeFields_excerpt {c : Config} {fields : List (String × Value)} (h : c.Excerpt fields)
    (n : Nat) :
    decodeFields shape (n + 2) [] (fieldReadings fields) =
      .ok ((fields.map Prod.fst).filterMap c.field?) := by
  have htakes : List.Forall₂ (shape.Takes (n + 2)) fields (fields.map fun e => c.field? e.1) := by
    rw [List.forall₂_map_right_iff, List.forall₂_same]
    intro e he
    by_cases hname : e.1 ∈ ownNames
    · exact takes_own (h.own e he hname) n
    · exact takes_other c hname (n + 2)
  rw [decodeFields_of_takes htakes h.once (by simp)]
  simp [List.reduceOption, List.filterMap_map]

theorem decode_excerpt {c : Config} {fields : List (String × Value)} (h : c.Excerpt fields) :
    Config.decode maxDepth (Value.object fields).reading =
      .ok (({} : Config).override c (fields.map Prod.fst)) := by
  have hfields : decodeFields shape 126 [] (fieldReadings fields) =
      .ok ((fields.map Prod.fst).filterMap c.field?) := decodeFields_excerpt h 124
  rw [← foldl_put_field?]
  simp [Config.decode, decodeRecord, Value.reading, maxDepth, enter, unread, hfields, bind,
    Except.bind, pure, Except.pure]

/-- The encoding of some settings is an excerpt that leaves nothing out. -/
theorem excerpt_encodeFields (c : Config) : c.Excerpt c.encodeFields where
  own := fun _ he _ => he
  once := by simp [encodeFields, ownNames, shape]

/-- **Settings are read back.** A text of an excerpt of some settings decodes to these settings with
the default in place of each field that is left out, and to the settings themselves if none is left
out. -/
theorem run_excerpt {c : Config} {fields : List (String × Value)} (h : c.Excerpt fields)
    {text : String} (htext : (Value.object fields).WrittenAs text) :
    Config.decode.run text = .ok (({} : Config).override c (fields.map Prod.fst)) ∧
      ((∀ name ∈ ownNames, name ∈ fields.map Prod.fst) → Config.decode.run text = .ok c) := by
  have hrun : Config.decode.run text = .ok (({} : Config).override c (fields.map Prod.fst)) := by
    rw [Decoder.run_of_writtenAs _ htext, decode_excerpt h]
  refine ⟨hrun, fun hall => ?_⟩
  rw [hrun, override_all {} c hall]

/-- Settings whose flags have two symbols and whose enemies wander. -/
def outpost : Config where
  levels := [⟨"a.json"⟩, ⟨""⟩]
  symbols := ⟨.ofList [('_', .flag), ('#', .flag)]⟩
  enemies := .wander 9

/-- Two of the fields in another order, with a field of another name in between. -/
def outpostFields : List (String × Value) :=
  [("enemy_policy", .object [("wander", .object [("seed", .number (.natural 9))])]),
    ("?", .array [.null]), ("tile_symbols", .object [("#", .string "FLAG"), ("_", .string "FLAG")])]

def outpostText : String :=
  "\x7b\"enemy_policy\": \x7b\"wander\": \x7b\"seed\":9\x7d\x7d,\n\"?\": [null]," ++
    "\"tile_symbols\": \x7b\"#\":\"FLAG\",\"_\":\"FLAG\"\x7d\x7d\n"

/-- Settings without levels and symbols. -/
def hut : Config where
  levels := []
  solutionsDir := ⟨"."⟩
  symbols := ⟨.empty⟩

def hutText : String :=
  "\x7b\"levels\":[],\"solutions_dir\":\".\",\n" ++
    "\"tile_symbols\":\x7b\x7d,\"enemy_policy\":\"idle\"\x7d"

theorem excerpt_outpostFields : outpost.Excerpt outpostFields where
  own := by
    have hsymbols :
        outpost.symbols.encode = .object [("#", .string "FLAG"), ("_", .string "FLAG")] := rfl
    intro e he hown
    simp only [outpostFields, List.mem_cons, List.not_mem_nil, or_false] at he
    rcases he with rfl | rfl | rfl
    · exact List.mem_of_getElem? (i := 3) rfl
    · simp [ownNames, shape] at hown
    · rw [← hsymbols]
      exact List.mem_of_getElem? (i := 2) rfl
  once := by simp [outpostFields, ownNames, shape]

set_option maxRecDepth 2000 in
theorem written_outpostFields : (Value.object outpostFields).WrittenAs outpostText := by
  have hnone : Spaces [] := by decide
  have hspace : Spaces [' '] := by decide
  have hline : Spaces ['\n'] := by decide
  have hnumeral : NumeralText ⟨false, ['9'], none, none⟩ _ :=
    .parts ⟨by simp, List.all_eq_true.1 rfl⟩ (.inr (by decide)) (by simp) .none
  have hseed : Spelled (.object [("seed", .number (.natural 9))]) _ :=
    .object hnone (.last (fieldText_of_plain "seed" rfl hnone hnone (.number hnumeral rfl)) hnone)
  have hpolicy : Spelled (.object [("wander", .object [("seed", .number (.natural 9))])]) _ :=
    .object hnone (.last (fieldText_of_plain "wander" rfl hnone hspace hseed) hnone)
  have hother : Spelled (.array [.null]) _ := .array hnone (.last .null hnone)
  have hflag : Spelled (.string "FLAG") _ := spelled_of_plain "FLAG" rfl
  have hsymbols : Spelled (.object [("#", .string "FLAG"), ("_", .string "FLAG")]) _ :=
    .object hnone (.next (fieldText_of_plain "#" rfl hnone hnone hflag) hnone hnone
      (.last (fieldText_of_plain "_" rfl hnone hnone hflag) hnone))
  have hfields : Spelled (.object outpostFields) _ :=
    .object hnone (.next (fieldText_of_plain "enemy_policy" rfl hnone hspace hpolicy) hnone hline
      (.next (fieldText_of_plain "?" rfl hnone hspace hother) hnone hnone
        (.last (fieldText_of_plain "tile_symbols" rfl hnone hspace hsymbols) hnone)))
  exact ⟨[], _, ['\n'], rfl, hnone, hfields, hline⟩

theorem written_hut : hut.encode.WrittenAs hutText := by
  have hnone : Spaces [] := by decide
  have hline : Spaces ['\n'] := by decide
  have hdir : Spelled (.string ".") _ := spelled_of_plain "." rfl
  have hidle : Spelled (.string "idle") _ := spelled_of_plain "idle" rfl
  have hfields : Spelled hut.encode _ :=
    .object hnone (.next (fieldText_of_plain "levels" rfl hnone hnone (.emptyArray hnone)) hnone
      hnone (.next (fieldText_of_plain "solutions_dir" rfl hnone hnone hdir) hnone hline
        (.next (fieldText_of_plain "tile_symbols" rfl hnone hnone (.emptyObject hnone)) hnone hnone
          (.last (fieldText_of_plain "enemy_policy" rfl hnone hnone hidle) hnone))))
  exact ⟨[], _, [], rfl, hnone, hfields, hnone⟩

theorem run_outpost :
    Config.decode.run outpostText =
        .ok { outpost with levels := [⟨"levels/tutorial.json"⟩], solutionsDir := ⟨"solutions"⟩ } ∧
      Config.decode.run hutText = .ok hut := by
  have hall : ∀ name ∈ ownNames, name ∈ hut.encodeFields.map Prod.fst := fun _ hname => hname
  exact ⟨(run_excerpt excerpt_outpostFields written_outpostFields).1,
    (run_excerpt hut.excerpt_encodeFields written_hut).2 hall⟩

end Config

end Gridwalk
