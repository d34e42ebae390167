import Chronomata.Proofs.Selection.Draw
import Chronomata.Proofs.Selection.Scaling

-- A draw is compared with running sums that are rounded. Each of them is near the exact part of the total, so
-- a draw that keeps clear of the edges between the exact shares gives the index of its share.
namespace Chronomata.Weights

open Decimal

variable {weights normalized : List Float} {amounts : List Nat} {draw sum : Float}

-- Leaving weights out makes no rounded sum larger.
theorem foldl_sublist {part whole : List Float} (listed : part.Sublist whole)
    (valid : ∀ w ∈ whole, isValid w = true) {less more : Float} {a b amount : Nat}
    (worth : IsAmount less a) (worth' : IsAmount more b) (below : a ≤ b)
    (finite : IsAmount (whole.foldl (· + ·) more) amount) :
    ∃ smaller ≤ amount, IsAmount (part.foldl (· + ·) less) smaller := by
  induction listed generalizing less more a b with
  | slnil => exact ⟨a, stands_unique worth' finite ▸ below, worth⟩
  | @cons part whole w _ ih =>
    obtain ⟨here, others⟩ := List.forall_mem_cons.mp valid
    have weighs := weighs_units here
    cases weighs.add worth' with
    | finite _ added =>
      exact ih others worth added (Nat.le_trans below (le_nearest_add worth' _)) finite
    | infinite _ endless =>
      exact absurd (foldl_infinite (weigh_units others) endless) (not_isInfinite finite.isFinite)
  | @cons_cons part whole w _ ih =>
    obtain ⟨here, others⟩ := List.forall_mem_cons.mp valid
    have weighs := weighs_units here
    have ordered := nearest_mono (Nat.add_le_add_right below (units w)) 1
    cases weighs.add worth' with
    | finite fits added =>
      cases weighs.add worth with
      | finite _ added' => exact ih others added' added ordered finite
      | infinite large _ => exact absurd large (Nat.not_le.mpr (Nat.lt_of_le_of_lt ordered fits))
    | infinite _ endless =>
      exact absurd (foldl_infinite (weigh_units others) endless) (not_isInfinite finite.isFinite)

theorem total_sublist {part whole : List Float} (listed : part.Sublist whole)
    (valid : ∀ w ∈ whole, isValid w = true) {amount : Nat} (worth : IsAmount (total whole) amount) :
    ∃ smaller ≤ amount, IsAmount (total part) smaller := by
  unfold total at *
  rw [zero_eq] at *
  exact foldl_sublist listed valid zero_worth zero_worth (Nat.le_refl 0) worth

theorem total_of_weigh (weigh : List.Forall₂ Weighs weights amounts) {whole : Nat}
    (worth : IsAmount (total weights) whole) : Summed (total weights) 0 amounts whole := by
  obtain ⟨whole', summed⟩ := (total_summed weigh).resolve_left (not_isInfinite worth.isFinite)
  exact stands_unique summed.worth worth ▸ summed

theorem lastPositive_eq_last {index : Nat} {w : Float} (present : weights[index]? = some w)
    (last : index + 1 = weights.length) (some : 0 < w) : lastPositive weights = Option.some index := by
  cases found : lastPositive weights with
  | none => exact absurd some (lastPositive_eq_none.mp found w (List.mem_of_getElem? present))
  | some other =>
    obtain ⟨⟨v, there, _⟩, after⟩ := lastPositive_eq_some found
    have inside := (List.getElem?_eq_some_iff.mp there).1
    have behind := after present some
    congr 1
    omega

-- What an amount is of one.
def portion (amount : Nat) : ℚ := amount / unity

theorem cast_unity_pos : (0 : ℚ) < unity := Nat.cast_pos.mpr unity_pos

theorem portion_lt_iff {a b : Nat} : portion a < portion b ↔ a < b := by
  rw [portion, portion, div_lt_div_iff_of_pos_right cast_unity_pos, Nat.cast_lt]

theorem portion_le_iff {a b : Nat} : portion a ≤ portion b ↔ a ≤ b := by
  rw [← not_lt, portion_lt_iff, Nat.not_lt]

theorem portion_nonneg (amount : Nat) : 0 ≤ portion amount :=
  div_nonneg (Nat.cast_nonneg _) (Nat.cast_nonneg _)

theorem portion_unity : portion unity = 1 := div_self cast_unity_pos.ne'

-- The exact part of the total that the weights before an index make up.
def edge (amounts : List Nat) (index : Nat) : ℚ := ((amounts.take index).sum : ℚ) / amounts.sum

theorem length_take_le (amounts : List Nat) (count : Nat) :
    ((amounts.take count).length : ℚ) ≤ amounts.length := by
  exact_mod_cast List.length_take_le' count amounts

theorem sum_take_le (amounts : List Nat) (count : Nat) :
    ((amounts.take count).sum : ℚ) ≤ amounts.sum := by
  exact_mod_cast (List.take_sublist count amounts).sum_le_sum fun _ _ => Nat.zero_le _

theorem edge_mono {first second : Nat} (ordered : first ≤ second) :
    edge amounts first ≤ edge amounts second := by
  unfold edge
  gcongr
  have part := List.take_prefix_take_left ordered (l := amounts)
  exact_mod_cast part.sublist.sum_le_sum fun _ _ => Nat.zero_le _

theorem edge_nonneg (amounts : List Nat) (index : Nat) : 0 ≤ edge amounts index := by
  unfold edge
  positivity

theorem edge_le_one (amounts : List Nat) (index : Nat) : edge amounts index ≤ 1 :=
  div_le_one_of_le₀ (sum_take_le amounts index) (Nat.cast_nonneg _)

-- Counting in other units moves no edge.
theorem edge_scaled (amounts : List Nat) (count : Nat) {unit whole : ℚ} (present : unit ≠ 0)
    (some : whole ≠ 0) : edge amounts count =
      ((amounts.take count).sum * unit / whole) / (amounts.sum * unit / whole) := by
  rw [div_div_div_cancel_right₀ some, mul_div_mul_right _ _ present, edge]

-- How far the running sums of that many weights can be from the edges: by the tolerance, and by what
-- rounding adds for each of them.
def blur (count : Nat) : ℚ := 1 / 10 ^ 12 + count / 2 ^ 50

-- A part of a whole, both known up to an error.
theorem part_near {unit whole part rounded error error' : ℚ} (positive : 0 < whole) (low : 0 ≤ part)
    (high : part ≤ whole) (near : |rounded - part| ≤ error) (near' : |whole - unit| ≤ error') :
    |rounded - unit * (part / whole)| ≤ error + error' := by
  have ratio : 0 ≤ part / whole := by positivity
  have ratio' : part / whole ≤ 1 := (div_le_one positive).mpr high
  have split : rounded - unit * (part / whole) =
      rounded - part + part / whole * (whole - unit) := by
    field_simp
    ring
  rw [split]
  calc |rounded - part + part / whole * (whole - unit)|
      ≤ |rounded - part| + |part / whole * (whole - unit)| := abs_add_le _ _
    _ = |rounded - part| + part / whole * |whole - unit| := by rw [abs_mul, abs_of_nonneg ratio]
    _ ≤ error + 1 * error' := by gcongr
    _ = error + error' := by rw [one_mul]

theorem near_of_scaled {unit x exact room : ℚ} (positive : 0 < unit)
    (near : |x - unit * exact| ≤ unit * room) : |x / unit - exact| ≤ room := by
  have split : x / unit - exact = (x - unit * exact) / unit := by field_simp
  rwa [split, abs_div, abs_of_pos positive, div_le_iff₀ positive, mul_comm room]

-- So many roundings are an eighth at most.
theorem roundings_le {count unit : ℚ} (few : count ≤ 2 ^ 50) (positive : 0 ≤ unit) :
    count * (unit / 2 ^ 53) ≤ unit / 8 := by
  calc count * (unit / 2 ^ 53) ≤ 2 ^ 50 * (unit / 2 ^ 53) := by gcongr
    _ = unit / 8 := by ring

theorem roundings_le_twice {count length unit x : ℚ} (short : count ≤ length) (start : 0 ≤ length)
    (bounded : x ≤ 2 * unit) (some : 0 ≤ x) :
    count * (x / 2 ^ 53) ≤ 2 * (length * (unit / 2 ^ 53)) := by
  calc count * (x / 2 ^ 53) ≤ length * (2 * unit / 2 ^ 53) := by gcongr
    _ = 2 * (length * (unit / 2 ^ 53)) := by ring

theorem some_of_error {whole : Nat} (some : 0 < whole)
    (error : |(whole : ℚ) - amounts.sum| ≤ amounts.length * (whole / 2 ^ 53)) : 1 ≤ amounts.length := by
  by_contra none
  obtain rfl := List.length_eq_zero_iff.mp (by omega : amounts.length = 0)
  have positive : (0 : ℚ) < whole := by exact_mod_cast some
  rw [List.sum_nil, List.length_nil, Nat.cast_zero, sub_zero, zero_mul, abs_of_pos positive] at error
  exact absurd error (not_le.mpr positive)

theorem sum_of_error {whole : Nat} (few : amounts.length ≤ 2 ^ 50)
    (error : |(whole : ℚ) - amounts.sum| ≤ amounts.length * (whole / 2 ^ 53)) :
    (whole : ℚ) * (7 / 8) ≤ amounts.sum ∧ (amounts.sum : ℚ) ≤ whole * (9 / 8) := by
  have few' : (amounts.length : ℚ) ≤ 2 ^ 50 := by exact_mod_cast few
  have eighth := roundings_le few' (show (0 : ℚ) ≤ whole by positivity)
  rw [abs_le] at error
  constructor <;> linarith

-- A running sum of rounded quotients: what each of them and each addition is off by.
theorem quotients_near {count length unit part rounded again : ℚ} (few : length ≤ 2 ^ 50)
    (one : 1 ≤ length) (short : count ≤ length) (large : 2 ^ 80 ≤ unit)
    (high : part ≤ unit + length * (unit / 2 ^ 53))
    (quotients : |rounded - part| ≤ count / 2 + part / 2 ^ 53)
    (sums : |again - rounded| ≤ count * (again / 2 ^ 53)) (some : 0 ≤ again) :
    |again - part| ≤ 5 * (length * (unit / 2 ^ 53)) := by
  have positive : 0 < unit := by linarith
  have eighth := roundings_le few positive.le
  have digit : unit / 2 ^ 53 ≤ length * (unit / 2 ^ 53) := le_mul_of_one_le_left (by positivity) one
  have half : 1 / 2 ≤ unit / 2 ^ 53 := by linarith
  have halves : count / 2 ≤ length * (unit / 2 ^ 53) := by
    calc count / 2 ≤ length * (1 / 2) := by linarith
      _ ≤ length * (unit / 2 ^ 53) := mul_le_mul_of_nonneg_left half (by linarith)
  have added := roundings_le (short.trans few) some
  rw [abs_le] at quotients sums ⊢
  have added' := roundings_le_twice short (by linarith) (by linarith : again ≤ 2 * unit) some
  constructor <;> linarith

theorem take_parts (amounts : List Nat) (whole count : Nat) :
    (parts amounts whole).take count = parts (amounts.take count) whole := List.map_take.symm

-- The two ways that a running sum is made: from quotients, or from weights close to one in total.
theorem edge_near_divided {whole again count : Nat} (some : 0 < whole) (few : amounts.length ≤ 2 ^ 50)
    (first : |(whole : ℚ) - amounts.sum| ≤ amounts.length * (whole / 2 ^ 53))
    (second : |(again : ℚ) - (parts (amounts.take count) whole).sum| ≤
      (parts (amounts.take count) whole).length * (again / 2 ^ 53)) :
    |(again : ℚ) - unity * edge amounts count| ≤ unity * (amounts.length / 2 ^ 50) := by
  rw [show (parts (amounts.take count) whole).length = _ from List.length_map _] at second
  have one : (1 : ℚ) ≤ amounts.length := by exact_mod_cast some_of_error some first
  have exact := exact_near some unity first
  have quotients := parts_error (amounts.take count) some
  have large := two_pow_le_unity (show 80 ≤ 1074 by decide)
  have positive : (0 : ℚ) < whole := by exact_mod_cast some
  have few' : (amounts.length : ℚ) ≤ 2 ^ 50 := by exact_mod_cast few
  have part := sum_take_le amounts count
  generalize unity = unit at *
  have large' : (2 : ℚ) ^ 80 ≤ unit := by exact_mod_cast large
  have high : ((amounts.take count).sum * unit / whole : ℚ) ≤ amounts.sum * unit / whole := by gcongr
  have within := abs_le.mp exact
  have near := quotients_near few' one (length_take_le amounts count) large' (by linarith) quotients
    second (by positivity)
  have eighth := roundings_le few' (show (0 : ℚ) ≤ unit by positivity)
  have present : (0 : ℚ) < amounts.sum * unit / whole := by linarith
  rw [edge_scaled amounts count (show (unit : ℚ) ≠ 0 by linarith) positive.ne']
  refine (part_near present (by positivity) high near exact).trans ?_
  linarith

-- Being close to one is rounded too.
theorem unit_near_of_close {amount : Nat} (worth : IsAmount sum amount)
    (close : (sum - 1.0).abs ≤ tolerance) :
    |(amount : ℚ) - unity| ≤ unity * (1 / 10 ^ 12 + 1 / 2 ^ 80) := by
  have within := (close_iff worth).mp close
  have rounded := sum_error (distance amount unity)
  have parts := slack_parts
  rw [← cast_distance]
  generalize unity = unit at *
  generalize distance amount unit = apart at *
  generalize nearest apart 1 = apart' at *
  generalize slack = room at *
  have parts' : (room : ℚ) * 2 ^ 92 = 4951760157141521 * unit := by exact_mod_cast parts
  have within' : (apart' : ℚ) ≤ room := by exact_mod_cast within
  have low : (0 : ℚ) ≤ unit := by positivity
  rw [abs_le] at rounded
  linarith

theorem edge_near_close {whole again count : Nat} (few : amounts.length ≤ 2 ^ 50)
    (close : |(whole : ℚ) - unity| ≤ unity * (1 / 10 ^ 12 + 1 / 2 ^ 80))
    (first : |(whole : ℚ) - amounts.sum| ≤ amounts.length * (whole / 2 ^ 53))
    (second : |(again : ℚ) - (amounts.take count).sum| ≤
      (amounts.take count).length * (again / 2 ^ 53)) :
    |(again : ℚ) - unity * edge amounts count| ≤ unity * blur amounts.length := by
  have few' : (amounts.length : ℚ) ≤ 2 ^ 50 := by exact_mod_cast few
  have short := length_take_le amounts count
  have part := sum_take_le amounts count
  have positive := cast_unity_pos
  unfold edge blur
  generalize (unity : ℚ) = unit at *
  have near := abs_le.mp close
  have some : (0 : ℚ) < whole := by linarith
  have one : (1 : ℚ) ≤ amounts.length := by
    exact_mod_cast some_of_error (by exact_mod_cast some) first
  have digit : unit / 2 ^ 53 ≤ amounts.length * (unit / 2 ^ 53) :=
    le_mul_of_one_le_left (by positivity) one
  have eighth := roundings_le few' positive.le
  have error := roundings_le_twice (le_refl (amounts.length : ℚ)) (by linarith)
    (by linarith : (whole : ℚ) ≤ 2 * unit) some.le
  have added := roundings_le (short.trans few') (show (0 : ℚ) ≤ again by positivity)
  have first' := abs_le.mp first
  have second' := abs_le.mp second
  have present : (0 : ℚ) < amounts.sum := by linarith
  have added' := roundings_le_twice short (by linarith) (by linarith : (again : ℚ) ≤ 2 * unit)
    (by positivity)
  have exact : |(amounts.sum : ℚ) - unit| ≤
      2 * (amounts.length * (unit / 2 ^ 53)) + unit * (1 / 10 ^ 12 + 1 / 2 ^ 80) := by
    rw [abs_le]
    constructor <;> linarith
  refine (part_near present (by positivity) part (second.trans added') exact).trans ?_
  linarith

-- Each running sum is near the edge it stands for.
theorem running_near (weigh : List.Forall₂ Weighs weights amounts) {whole : Nat}
    (worth : IsAmount (total weights) whole) (some : 0 < whole) (few : amounts.length ≤ 2 ^ 50)
    (scaled : normalize weights = .ok normalized) (count : Nat) :
    ∃ again, IsAmount (total (normalized.take count)) again ∧
      |portion again - edge amounts count| ≤ blur amounts.length := by
  have summed := total_of_weigh weigh worth
  have valid := valid_of_weigh weigh
  obtain ⟨_, _, rfl⟩ := normalize_eq_ok.mp scaled
  unfold scale
  split_ifs with close
  · rw [List.map_id']
    obtain ⟨again, _, worth'⟩ := total_sublist (List.take_sublist count weights) valid worth
    have part := total_of_weigh (List.forall₂_take count weigh) worth'
    have near := edge_near_close few (unit_near_of_close worth close) summed.sum_error part.sum_error
    exact ⟨again, worth', near_of_scaled cast_unity_pos near⟩
  · obtain ⟨_, _, summed'⟩ := quotients_summed weigh summed some
    have weigh' := quotients_weigh weigh worth some summed.le_total
    obtain ⟨again, _, worth'⟩ :=
      total_sublist (List.take_sublist count _) (valid_of_weigh weigh') summed'.worth
    have part := total_of_weigh (List.forall₂_take count weigh') worth'
    rw [take_parts] at part
    have near := edge_near_divided some few summed.sum_error part.sum_error
    refine ⟨again, worth', (near_of_scaled cast_unity_pos near).trans ?_⟩
    unfold blur
    linarith

-- A draw that is clear of the edges of the share it falls into.
structure Clear (amounts : List Nat) (room draw : ℚ) (index : Nat) : Prop where
  inside : index < amounts.length
  above : 0 < index → edge amounts index + room ≤ draw
  below : index + 1 < amounts.length → draw + room < edge amounts (index + 1)

namespace Clear

variable {room draw : ℚ} {index : Nat}

-- Where there is an edge at all, there is room for both sides of it.
theorem room_le_one (clear : Clear amounts room draw index) (low : 0 ≤ draw) (high : draw ≤ 1) :
    amounts.length = 1 ∨ room ≤ 1 := by
  have inside := clear.inside
  cases index with
  | zero =>
    by_cases one : amounts.length = 1
    · exact .inl one
    · have below := clear.below (by omega)
      have bound := edge_le_one amounts (0 + 1)
      exact .inr (by linarith)
  | succ index =>
    have above := clear.above (Nat.succ_pos _)
    have bound := edge_nonneg amounts (index + 1)
    exact .inr (by linarith)

-- Of too many weights no draw is clear.
theorem few (clear : Clear amounts room draw index) (low : 0 ≤ draw) (high : draw ≤ 1)
    (wide : blur amounts.length ≤ room) : amounts.length ≤ 2 ^ 50 := by
  rcases clear.room_le_one low high with one | small
  · rw [one]
    exact Nat.one_le_two_pow
  · unfold blur at wide
    have bound : (amounts.length : ℚ) ≤ 2 ^ 50 := by linarith
    exact_mod_cast bound

end Clear

-- A weight whose share is as wide as the tolerance does not vanish.
theorem scale_pos_of_wide (valid : ∀ w ∈ weights, isValid w = true) {whole index : Nat} {w : Float}
    (worth : IsAmount (total weights) whole) (some : 0 < whole) (few : weights.length ≤ 2 ^ 50)
    (present : weights[index]? = Option.some w)
    (wide : edge (weights.map units) index + 1 / 10 ^ 12 < edge (weights.map units) (index + 1)) :
    0 < scale weights w := by
  have summed := total_of_weigh (weigh_units valid) worth
  obtain ⟨heavy, _⟩ := sum_of_error (by rwa [List.length_map]) summed.sum_error
  have positive : (0 : ℚ) < whole := by exact_mod_cast some
  have listed : (weights.map units)[index]? = Option.some (units w) := by
    rw [List.getElem?_map, present, Option.map_some]
  have step : ((weights.map units).take (index + 1)).sum =
      ((weights.map units).take index).sum + units w := by
    rw [List.take_add_one, listed, Option.toList_some, List.sum_append, List.sum_singleton]
  unfold edge at wide
  rw [step, Nat.cast_add, add_div, add_lt_add_iff_left, lt_div_iff₀ (by linarith)] at wide
  have enough : (whole : ℚ) < 2 * (units w * 2 ^ 80) := by linarith
  have enough' : whole < 2 * (units w * 2 ^ 80) := by exact_mod_cast enough
  have large := Nat.mul_le_mul_left (units w) (two_pow_le_unity (show 80 ≤ 1074 by decide))
  have member := List.mem_of_getElem? present
  have counted := worth.not_beq_zero_iff.mpr some
  have positive' : 0 < w := (zero_lt_iff (valid w member)).mpr (by omega)
  refine (scale_pos_iff valid counted member).mpr ⟨positive', .inr ⟨?_, ?_⟩⟩
  · exact worth.isFinite
  · rw [worth.units]
    omega

section Decided

variable {whole amount index : Nat}

-- Every comparison of the draw is decided by the exact shares.
theorem clear_decided (valid : ∀ w ∈ weights, isValid w = true) (worth : IsAmount (total weights) whole)
    (some : 0 < whole) (few : weights.length ≤ 2 ^ 50) (drawn : IsAmount draw amount)
    (clear : Clear (weights.map units) (blur weights.length) (portion amount) index)
    (scaled : normalize weights = .ok normalized) :
    (∀ before < index, ¬ draw < total (normalized.take (before + 1))) ∧
      (index + 1 < weights.length → draw < total (normalized.take (index + 1))) := by
  have reached := running_near (weigh_units valid) worth some (by rwa [List.length_map]) scaled
  rw [List.length_map] at reached
  constructor
  · intro before earlier
    obtain ⟨again, worth', near⟩ := reached (before + 1)
    have ordered : edge (weights.map units) (before + 1) ≤ edge (weights.map units) index :=
      edge_mono (Nat.succ_le_of_lt earlier)
    have above := clear.above (Nat.lt_of_le_of_lt (Nat.zero_le _) earlier)
    have near' := (abs_le.mp near).2
    rw [drawn.lt_iff worth', Nat.not_lt, ← portion_le_iff]
    linarith
  · intro further
    obtain ⟨again, worth', near⟩ := reached (index + 1)
    have below := clear.below (by rwa [List.length_map])
    have near' := (abs_le.mp near).1
    rw [drawn.lt_iff worth', ← portion_lt_iff]
    linarith

-- The last share reaches up to one, past every draw.
theorem lastPositive_clear (valid : ∀ w ∈ weights, isValid w = true)
    (worth : IsAmount (total weights) whole) (some : 0 < whole) (few : weights.length ≤ 2 ^ 50)
    (small : portion amount < 1)
    (clear : Clear (weights.map units) (blur weights.length) (portion amount) index)
    (last : index + 1 = weights.length) :
    lastPositive (weights.map (scale weights)) = Option.some index := by
  have inside : index < weights.length := by omega
  have summed := total_of_weigh (weigh_units valid) worth
  obtain ⟨heavy, _⟩ := sum_of_error (by rwa [List.length_map]) summed.sum_error
  have positive : (0 : ℚ) < whole := by exact_mod_cast some
  have full : edge (weights.map units) (index + 1) = 1 := by
    rw [edge, last, ← List.length_map (f := units), List.take_length]
    exact div_self (by linarith)
  have wide : edge (weights.map units) index + 1 / 10 ^ 12 < edge (weights.map units) (index + 1) := by
    rw [full]
    rcases Nat.eq_zero_or_pos index with rfl | later
    · norm_num [edge]
    · have above := clear.above later
      have room : 1 / 10 ^ 12 ≤ blur weights.length := le_add_of_nonneg_right (by positivity)
      linarith
  have present := List.getElem?_eq_getElem inside
  refine lastPositive_eq_last (w := scale weights weights[index]) ?_ ?_ ?_
  · rw [List.getElem?_map, present, Option.map_some]
  · rwa [List.length_map]
  · exact scale_pos_of_wide valid worth some few present wide

theorem indexAt_clear (valid : ∀ w ∈ weights, isValid w = true) (worth : IsAmount (total weights) whole)
    (some : 0 < whole) (drawn : IsAmount draw amount) (small : amount < unity)
    (clear : Clear (weights.map units) (blur weights.length) (portion amount) index) :
    indexAt weights draw = Option.some index := by
  have less : portion amount < 1 := portion_unity ▸ portion_lt_iff.mpr small
  have inside : index < weights.length := List.length_map units ▸ clear.inside
  have few := clear.few (portion_nonneg _) less.le (by rw [List.length_map])
  rw [List.length_map] at few
  have counted := worth.not_beq_zero_iff.mpr some
  have scaled := normalize_eq_ok.mpr ⟨valid, counted, rfl⟩
  obtain ⟨before, after⟩ := clear_decided valid worth some few drawn clear scaled
  have bounded : index < (weights.map (scale weights)).length := by rwa [List.length_map]
  rw [indexAt_eq scaled]
  by_cases hit : draw < total ((weights.map (scale weights)).take (index + 1))
  · rw [indexBelow_eq_some.mpr ⟨bounded, hit, before⟩, Option.some_or]
  · have last : index + 1 = weights.length := by
      by_contra further
      exact hit (after (by omega))
    have none : indexBelow draw 0.0 (weights.map (scale weights)) = Option.none := by
      refine indexBelow_eq_none.mpr ?_
      intro other listed reached
      rw [List.length_map] at listed
      rcases Nat.lt_or_eq_of_le (show other ≤ index by omega) with earlier | rfl
      · exact before other earlier reached
      · exact hit reached
    rw [none, Option.none_or]
    exact lastPositive_clear valid worth some few less clear last

end Decided

end Chronomata.Weights
