import Gridwalk.Board.Document
import Gridwalk.Config.Basic

/-!
# Settings in documents

The settings are a record each of whose fields may be missing, which leaves it at its default. The
policy of the enemies is a name, or an object that gives a seed as well.
-/

namespace Gridwalk

open Json

/-! ## Policies -/

/-- A seed is an integer of 64 bits without a sign. -/
def decodeSeed : Decoder UInt64 := fun depth r =>
  (fun n => UInt64.ofNat n.toNat) <$> decodeInt 0 0xffffffffffffffff "u64" depth r

/-- The settings of a wandering policy: its seed. -/
def wanderShape : RecordShape UInt64 :=
  { known := [("seed", decodeSeed)], other := skipOther }

def decodeWander : Decoder EnemyPolicy := fun depth r => do
  let seeds ← decodeRecord "struct variant PolicyConfig::Wander"
    (tooShort "struct variant PolicyConfig::Wander with 1 element") wanderShape depth r
  return .wander (← require "seed" seeds.head?)

def EnemyPolicy.decode : Decoder EnemyPolicy :=
  decodeEnum [.plain "idle" .idle, .carrying "wander" decodeWander]

def EnemyPolicy.encode : EnemyPolicy → Value
  | .idle => .string "idle"
  | .wander seed =>
    .object [("wander", .object [("seed", .number (.natural seed.toNat))])]

/-! ## Settings -/

/-- A field of the settings. -/
inductive Config.Field where
  | levels (ps : List Path)
  | solutionsDir (p : Path)
  | symbols (s : Symbols)
  | enemies (p : EnemyPolicy)

namespace Config

def decodePath : Decoder Path := fun depth r => Path.mk <$> decodeString "path string" depth r

def shape : RecordShape Field :=
  { known :=
      [("levels", fun depth r => .levels <$> decodeList decodePath depth r),
        ("solutions_dir", fun depth r => .solutionsDir <$> decodePath depth r),
        ("tile_symbols", fun depth r => .symbols <$> Symbols.decode depth r),
        ("enemy_policy", fun depth r => .enemies <$> EnemyPolicy.decode depth r)]
    other := skipOther }

/-- Enters a field into the settings. -/
def put (c : Config) : Field → Config
  | .levels ps => { c with levels := ps }
  | .solutionsDir p => { c with solutionsDir := p }
  | .symbols s => { c with symbols := s }
  | .enemies p => { c with enemies := p }

/-- What is missing stays at its default, also at the end of an array. -/
def decode : Decoder Config := fun depth r => do
  let fields ← decodeRecord "struct GameConfig" (fun _ => .ok ()) shape depth r
  return fields.foldl put {}

/-- The fields of the settings with their names. -/
def encodeFields (c : Config) : List (String × Value) :=
  [("levels", .array (c.levels.map fun p => .string p.text)),
    ("solutions_dir", .string c.solutionsDir.text),
    ("tile_symbols", c.symbols.encode),
    ("enemy_policy", c.enemies.encode)]

def encode (c : Config) : Value := .object c.encodeFields

end Config

end Gridwalk
