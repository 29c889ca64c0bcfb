import PullComment.Proofs.Json.RoundTrip

namespace PullComment.Json

def itemsBefore (items : List Json) : List Token :=
  items.flatMap fun v => tokensOf v ++ [.comma]

def membersBefore (members : List (String × Json)) : List Token :=
  members.flatMap fun m => .string m.1 :: .colon :: tokensOf m.2 ++ [.comma]

theorem tokensOf_append_itemTokens (first last : Json) (items : List Json) :
    tokensOf first ++ itemTokens (items ++ [last]) = itemsBefore (first :: items) ++ tokensOf last := by
  induction items generalizing first with
  | nil => simp [itemTokens, itemsBefore]
  | cons item items ih =>
      have hitems := ih item
      simp only [List.cons_append, itemTokens, hitems, itemsBefore, List.flatMap_cons, List.append_assoc,
        List.nil_append]

theorem tokensOf_array_concat (items : List Json) (last : Json) :
    tokensOf (.array (items ++ [last])) = .openBracket :: itemsBefore items ++ tokensOf last ++ [.closeBracket] := by
  cases items with
  | nil => simp [tokensOf, itemTokens, itemsBefore]
  | cons item items =>
      simp only [List.cons_append, tokensOf]
      rw [tokensOf_append_itemTokens]

theorem tokensOf_append_memberTokens (name last : String) (v w : Json) (members : List (String × Json)) :
    .string name :: .colon :: tokensOf v ++ memberTokens (members ++ [(last, w)]) =
      membersBefore ((name, v) :: members) ++ .string last :: .colon :: tokensOf w := by
  induction members generalizing name v with
  | nil => simp [memberTokens, membersBefore]
  | cons m members ih =>
      have hmembers := ih m.1 m.2
      simp only [List.cons_append] at hmembers
      simp only [List.cons_append, memberTokens, hmembers, membersBefore, List.flatMap_cons, List.append_assoc,
        List.nil_append]

theorem tokensOf_object_concat (members : List (String × Json)) (last : String) (w : Json) :
    tokensOf (.object (members ++ [(last, w)])) =
      .openBrace :: membersBefore members ++ .string last :: .colon :: tokensOf w ++ [.closeBrace] := by
  cases members with
  | nil => simp [tokensOf, memberTokens, membersBefore]
  | cons m members =>
      have hmembers := tokensOf_append_memberTokens m.1 last m.2 w members
      simp only [List.cons_append] at hmembers
      simp only [List.cons_append, tokensOf, hmembers]

def Frame.values : Frame → List Json
  | .array done => done
  | .object done _ => done.map Prod.snd

namespace Reading

variable {limit : Nat} {reading next : Reading} {stack : List Frame} {token : Token}

def consumedOf : List Frame → List Token
  | [] => []
  | .array done :: stack => consumedOf stack ++ .openBracket :: itemsBefore done.reverse
  | .object done key :: stack =>
      consumedOf stack ++ .openBrace :: membersBefore done.reverse ++ [.string key, .colon]

def consumed : Reading → List Token
  | .value stack => consumedOf stack
  | .item stack => consumedOf stack ++ [.openBracket]
  | .name stack done _ => consumedOf stack ++ .openBrace :: membersBefore done.reverse
  | .colon stack done key => consumedOf stack ++ .openBrace :: membersBefore done.reverse ++ [.string key]
  | .complete stack v => consumedOf stack ++ tokensOf v

theorem consumed_begin (h : begin limit stack token = some next) :
    next.consumed = consumedOf stack ++ [token] := by
  unfold begin at h
  split at h
  · cases token <;> cases h <;> simp [consumed, membersBefore, tokensOf]
  · cases h

theorem consumed_step (h : step limit reading token = some next) :
    next.consumed = reading.consumed ++ [token] := by
  unfold step at h
  split at h
  case h_1 => exact consumed_begin h
  case h_2 =>
    cases h
    simp [consumed, tokensOf]
  case h_3 =>
    rw [consumed_begin h]
    simp [consumed, consumedOf, itemsBefore]
  case h_8 v done stack' =>
    cases h
    rw [consumed, List.reverse_cons, tokensOf_array_concat]
    simp [consumed, consumedOf]
  case h_10 v done key stack' =>
    cases h
    rw [consumed, List.reverse_cons, tokensOf_object_concat]
    simp [consumed, consumedOf]
  case h_11 => cases h
  all_goals
    cases h
    simp [consumed, consumedOf, itemsBefore, membersBefore, tokensOf]

theorem consumed_run {ts : List Token} (h : run limit reading ts = some next) :
    next.consumed = reading.consumed ++ ts := by
  induction ts generalizing reading with
  | nil =>
      cases h
      rw [List.append_nil]
  | cons token ts ih =>
      rw [run] at h
      split at h
      · rename_i middle hstep
        rw [ih h, consumed_step hstep, List.append_assoc, List.singleton_append]
      · cases h

def OpenWithin (limit : Nat) : List Frame → Prop
  | [] => True
  | frame :: stack => (∀ v ∈ frame.values, stack.length + 1 + v.levels ≤ limit) ∧ OpenWithin limit stack

def Within (limit : Nat) : Reading → Prop
  | .value stack => OpenWithin limit stack
  | .item stack => stack.length < limit ∧ OpenWithin limit stack
  | .name stack done _ | .colon stack done _ =>
      stack.length < limit ∧ (∀ m ∈ done, stack.length + 1 + m.2.levels ≤ limit) ∧ OpenWithin limit stack
  | .complete stack v => stack.length + v.levels ≤ limit ∧ OpenWithin limit stack

theorem within_begin (hstack : OpenWithin limit stack) (h : begin limit stack token = some next) :
    next.Within limit := by
  unfold begin at h
  split at h
  · rename_i hlength
    cases token with
    | openBrace =>
        cases h
        exact ⟨hlength, List.forall_mem_nil _, hstack⟩
    | openBracket =>
        cases h
        exact ⟨hlength, hstack⟩
    | closeBrace | closeBracket | colon | comma => cases h
    | null | bool b | number n | string s =>
        cases h
        exact ⟨hlength, hstack⟩
  · cases h

theorem array_within {done : List Json} {v : Json} (hv : stack.length + 1 + v.levels ≤ limit)
    (hdone : ∀ w ∈ done, stack.length + 1 + w.levels ≤ limit) :
    stack.length + (Json.array (v :: done).reverse).levels ≤ limit := by
  have hitems : levelsItems (v :: done).reverse ≤ limit - (stack.length + 1) := by
    refine levelsItems_le_iff.mpr fun w hw => ?_
    rcases List.mem_cons.mp (List.mem_reverse.mp hw) with rfl | hw
    · omega
    · have := hdone w hw
      omega
  rw [levels]
  omega

theorem object_within {done : List (String × Json)} {m : String × Json}
    (hm : stack.length + 1 + m.2.levels ≤ limit) (hdone : ∀ n ∈ done, stack.length + 1 + n.2.levels ≤ limit) :
    stack.length + (Json.object (m :: done).reverse).levels ≤ limit := by
  have hmembers : levelsMembers (m :: done).reverse ≤ limit - (stack.length + 1) := by
    refine levelsMembers_le_iff.mpr fun n hn => ?_
    rcases List.mem_cons.mp (List.mem_reverse.mp hn) with rfl | hn
    · omega
    · have := hdone n hn
      omega
  rw [levels]
  omega

theorem within_step (hreading : reading.Within limit) (h : step limit reading token = some next) :
    next.Within limit := by
  unfold step at h
  split at h
  case h_1 => exact within_begin hreading h
  case h_2 =>
    cases h
    exact hreading
  case h_3 stack' _ =>
    have hopen : OpenWithin limit (.array [] :: stack') := ⟨List.forall_mem_nil _, hreading.2⟩
    exact within_begin hopen h
  case h_4 =>
    cases h
    exact hreading
  case h_5 =>
    cases h
    exact ⟨hreading.1, hreading.2.2⟩
  case h_6 =>
    cases h
    exact ⟨List.forall_mem_map.mpr hreading.2.1, hreading.2.2⟩
  case h_7 =>
    cases h
    obtain ⟨hv, hdone, hstack⟩ := hreading
    exact ⟨List.forall_mem_cons.mpr ⟨hv, hdone⟩, hstack⟩
  case h_8 =>
    cases h
    obtain ⟨hv, hdone, hstack⟩ := hreading
    exact ⟨array_within hv hdone, hstack⟩
  case h_9 =>
    cases h
    obtain ⟨hv, hdone, hstack⟩ := hreading
    have hlength := hv
    rw [List.length_cons] at hlength
    exact ⟨by omega, List.forall_mem_cons.mpr ⟨hv, List.forall_mem_map.mp hdone⟩, hstack⟩
  case h_10 =>
    cases h
    obtain ⟨hv, hdone, hstack⟩ := hreading
    exact ⟨object_within (m := (_, _)) hv (List.forall_mem_map.mp hdone), hstack⟩
  case h_11 => cases h

theorem within_run {ts : List Token} (hreading : reading.Within limit) (h : run limit reading ts = some next) :
    next.Within limit := by
  induction ts generalizing reading with
  | nil =>
      cases h
      exact hreading
  | cons token ts ih =>
      rw [run] at h
      split at h
      · rename_i middle hstep
        exact ih (within_step hreading hstep) h
      · cases h

end Reading

theorem ofTokens?_eq_some_iff {limit : Nat} {ts : List Token} {v : Json} :
    ofTokens? limit ts = some v ↔ ts = tokensOf v ∧ v.levels ≤ limit := by
  constructor
  · intro h
    obtain ⟨reading, hrun, hresult⟩ := Option.bind_eq_some_iff.mp h
    have hcomplete : reading = .complete [] v := by
      unfold Reading.result? at hresult
      split at hresult
      · cases hresult
        rfl
      · cases hresult
    subst hcomplete
    -- two invariants of the run: what it holds spells what it has read, and nothing held is too deep
    have hconsumed := Reading.consumed_run hrun
    have hstart : (Reading.value []).Within limit := trivial
    have hwithin := Reading.within_run hstart hrun
    refine ⟨?_, ?_⟩
    · simpa [Reading.consumed, Reading.consumedOf] using hconsumed.symm
    · simpa using hwithin.1
  · rintro ⟨rfl, h⟩
    exact ofTokens?_tokensOf h

/-- The text holds the value, however many levels that has. -/
def Spells (text : String) (v : Json) : Prop :=
  tokens text.toList = some (tokensOf v)

instance (text : String) (v : Json) : Decidable (Spells text v) :=
  inferInstanceAs (Decidable (tokens text.toList = some (tokensOf v)))

theorem parseWithin_eq_some_iff {limit : Nat} {text : String} {v : Json} :
    parseWithin limit text = some v ↔ Spells text v ∧ v.levels ≤ limit := by
  rw [parseWithin, Option.bind_eq_some_iff]
  constructor
  · rintro ⟨ts, hts, h⟩
    obtain ⟨rfl, hlevels⟩ := ofTokens?_eq_some_iff.mp h
    exact ⟨hts, hlevels⟩
  · rintro ⟨hspells, hlevels⟩
    exact ⟨tokensOf v, hspells, ofTokens?_eq_some_iff.mpr ⟨rfl, hlevels⟩⟩

theorem spells_iff_exists_parseWithin {text : String} {v : Json} :
    Spells text v ↔ ∃ limit, parseWithin limit text = some v := by
  constructor
  · intro h
    exact ⟨v.levels, parseWithin_eq_some_iff.mpr ⟨h, Nat.le_refl _⟩⟩
  · rintro ⟨limit, h⟩
    exact (parseWithin_eq_some_iff.mp h).1

section Numbers

variable {n : Number}

mutual

theorem mem_tokensOf : ∀ {v : Json}, n ∈ v.numbers → .number n ∈ tokensOf v
  | .number _, h => by simpa [numbers, tokensOf] using h
  | .array (_ :: _), h => by
      rw [numbers, numbersItems, List.mem_append] at h
      rcases h with h | h
      · simp [tokensOf, mem_tokensOf h]
      · simp [tokensOf, mem_itemTokens h]
  | .object ((_, _) :: _), h => by
      rw [numbers, numbersMembers, List.mem_append] at h
      rcases h with h | h
      · simp [tokensOf, mem_tokensOf h]
      · simp [tokensOf, mem_memberTokens h]

theorem mem_itemTokens : ∀ {items : List Json}, n ∈ numbersItems items → .number n ∈ itemTokens items
  | _ :: _, h => by
      rw [numbersItems, List.mem_append] at h
      rcases h with h | h
      · simp [itemTokens, mem_tokensOf h]
      · simp [itemTokens, mem_itemTokens h]

theorem mem_memberTokens : ∀ {members : List (String × Json)}, n ∈ numbersMembers members →
    .number n ∈ memberTokens members
  | (_, _) :: _, h => by
      rw [numbersMembers, List.mem_append] at h
      rcases h with h | h
      · simp [memberTokens, mem_tokensOf h]
      · simp [memberTokens, mem_memberTokens h]

end

end Numbers

end PullComment.Json
