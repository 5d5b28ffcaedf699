import ModelContext.Config.SocketAddress
import ModelContext.Proofs.FloatText
import Mathlib.Data.List.Induction
import Mathlib.Data.List.TakeWhile
import Mathlib.Tactic.IntervalCases

/-!
# The written forms of socket addresses

Which texts write a socket address, said without reading them: an IPv4 address in its one dotted form or an IPv6 address
in brackets, and behind a colon the digits of a port. The reader takes exactly these texts. Since a port has no colon in
it, the port of an address is what stands behind its last colon.
-/

namespace ModelContext

/-- Decimal digits for a number, with any zeros in front. -/
structure IsDecimal (ds : List Char) (n : Nat) : Prop where
  ne_nil : ds ≠ []
  digits : ∀ c ∈ ds, c.isDigit = true
  value : Nat.ofDigitChars 10 ds 0 = n

theorem IsDecimal.not_mem {ds : List Char} {n : Nat} (h : IsDecimal ds n) {c : Char} (hc : c.isDigit = false) :
    c ∉ ds := by
  intro hmem
  rw [h.digits c hmem] at hc
  cases hc

namespace SocketAddress

/-! ## The forms -/

structure IsGroup (ds : List Char) (g : UInt16) : Prop where
  ne_nil : ds ≠ []
  length_le : ds.length ≤ 4
  digits : ∀ c ∈ ds, (hexValue? c).isSome = true
  value : ds.foldl (fun n c => n * 16 + (hexValue? c).getD 0) 0 = g.toNat

/-- What divides a part from the one before it. -/
def colon (first : Bool) : List Char :=
  if first then [] else [':']

/-- Groups with a colon in front of each but the first. The last two may be written as a dotted quad. -/
inductive Parts : (first : Bool) → List Char → List UInt16 → (dotted : Bool) → Prop where
  | none {first : Bool} : Parts first [] [] false
  | quad {first : Bool} (q : Quad) : Parts first (colon first ++ quadChars q) [join q.a q.b, join q.c q.d] true
  | group {first dotted : Bool} {ds cs : List Char} {g : UInt16} {gs : List UInt16} (hgroup : IsGroup ds g)
      (hlater : Parts false cs gs dotted) : Parts first (colon first ++ (ds ++ cs)) (g :: gs) dotted

/-- An IPv6 address: all its groups, or two colons in the place of one or more that are zero. -/
inductive AddressText : List Char → List UInt16 → Prop where
  | full {dotted : Bool} {cs : List Char} {gs : List UInt16} (hparts : Parts true cs gs dotted)
      (hlength : gs.length = 8) : AddressText cs gs
  | short {dotted : Bool} {front back : List Char} {head tail : List UInt16} (hfront : Parts true front head false)
      (hback : Parts true back tail dotted) (hlength : head.length + tail.length < 8) :
      AddressText (front ++ ':' :: ':' :: back)
        (head ++ List.replicate (8 - head.length - tail.length) 0 ++ tail)

/-- A scope behind a percent sign. Without one it is zero. -/
inductive ScopeText : List Char → UInt32 → Prop where
  | none : ScopeText [] 0
  | some {ds : List Char} {scope : UInt32} (hscope : IsDecimal ds scope.toNat) : ScopeText ('%' :: ds) scope

inductive Written : List Char → SocketAddress → Prop where
  | v4 {ds : List Char} {port : UInt16} (q : Quad) (hport : IsDecimal ds port.toNat) :
      Written (quadChars q ++ ':' :: ds) (.v4 q port)
  | v6 {address zone ds : List Char} {groups : Vector UInt16 8} {scope : UInt32} {port : UInt16}
      (haddress : AddressText address groups.toList) (hscope : ScopeText zone scope) (hport : IsDecimal ds port.toNat) :
      Written ('[' :: (address ++ (zone ++ ']' :: ':' :: ds))) (.v6 groups scope port)

/-! ## Numbers -/

section Numbers

variable {cs ds rest : List Char}

theorem digitRun_append {p : Char → Bool} (hds : ∀ c ∈ ds, p c = true) (hrest : ∀ c ∈ rest.head?, p c = false) :
    digitRun p (ds ++ rest) = (ds, rest) := by
  have htake : rest.takeWhile p = [] := by
    cases rest with
    | nil => rfl
    | cons c rest => simp [hrest c rfl]
  have hdrop : rest.dropWhile p = rest := by
    cases rest with
    | nil => rfl
    | cons c rest => simp [hrest c rfl]
  rw [digitRun, List.takeWhile_append_of_pos hds, List.dropWhile_append_of_pos hds, htake, hdrop, List.append_nil]

theorem digitRun_spec (p : Char → Bool) (cs : List Char) :
    cs = (digitRun p cs).1 ++ (digitRun p cs).2 ∧ ∀ c ∈ (digitRun p cs).1, p c = true :=
  ⟨List.takeWhile_append_dropWhile.symm, fun _ => List.mem_takeWhile_imp⟩

theorem decimal?_append {limit n : Nat} (h : IsDecimal ds n) (hn : n < limit) (hrest : Json.EndsDigits rest) :
    decimal? limit (ds ++ rest) = some (n, rest) := by
  rw [decimal?, digitRun_append h.digits hrest]
  simp [h.ne_nil, h.value, hn]

theorem exists_decimal {limit n : Nat} (h : decimal? limit cs = some (n, rest)) :
    ∃ ds, cs = ds ++ rest ∧ IsDecimal ds n ∧ n < limit := by
  obtain ⟨hcs, hdigits⟩ := digitRun_spec Char.isDigit cs
  rw [decimal?] at h
  dsimp only at h
  split at h
  · rename_i hds
    cases h
    exact ⟨_, hcs, ⟨hds.1, hdigits, rfl⟩, hds.2⟩
  · cases h

theorem digitChar_digitValue {c : Char} (h : c.isDigit = true) : (digitValue c).digitChar = c := by
  have hbounds : 48 ≤ c.toNat ∧ c.toNat ≤ 57 := by
    simpa [Char.isDigit, UInt32.le_iff_toNat_le] using h
  rw [digitValue, ← Char.ofNat_toNat c]
  generalize c.toNat = n at hbounds
  obtain ⟨hlow, hhigh⟩ := hbounds
  interval_cases n <;> decide

/-- Digits without a zero in front of others are those that a number is written with. -/
theorem toDigits_ofDigitChars (hne : ds ≠ []) (hdigits : ∀ c ∈ ds, c.isDigit = true)
    (hzero : ds.head? = some '0' → ds.length = 1) : Nat.toDigits 10 (Nat.ofDigitChars 10 ds 0) = ds := by
  induction ds using List.reverseRecOn with
  | nil => exact absurd rfl hne
  | append_singleton front d ih =>
    have hd := hdigits d (List.mem_append_right _ List.mem_cons_self)
    have hvalue : Nat.ofDigitChars 10 (front ++ [d]) 0 = 10 * Nat.ofDigitChars 10 front 0 + digitValue d := by
      rw [Nat.ofDigitChars_append, Nat.ofDigitChars_cons, Nat.ofDigitChars_nil, digitValue]
    have hlast : Nat.toDigits 10 (digitValue d) = [d] := by
      rw [Nat.toDigits_of_lt_base (digitValue_lt hd), digitChar_digitValue hd]
    rw [hvalue]
    cases front with
    | nil => rw [Nat.ofDigitChars_nil, Nat.mul_zero, Nat.zero_add, hlast, List.nil_append]
    | cons c front =>
      -- More than one digit stands here, so the first is no zero.
      have hc : c ≠ '0' := by
        rintro rfl
        simpa using hzero rfl
      have hfront := ih (List.cons_ne_nil c front) (fun b hb => hdigits b (List.mem_append_left _ hb))
        (fun hhead => absurd (Option.some.inj hhead) hc)
      have hpos : 0 < Nat.ofDigitChars 10 (c :: front) 0 := by
        rw [Nat.pos_iff_ne_zero]
        intro hnil
        rw [hnil, Nat.toDigits_zero] at hfront
        exact hc (List.cons.inj hfront).1.symm
      rw [← Nat.toDigits_append_toDigits (by decide) hpos (digitValue_lt hd), hfront, hlast]

end Numbers

/-! ## Parts -/

section Bytes

variable {cs rest : List Char}

theorem isDigit_natChars (n : Nat) : ∀ c ∈ natChars n, c.isDigit = true :=
  Json.isDigit_toDigits n

theorem byte?_natChars (b : UInt8) (hrest : Json.EndsDigits rest) :
    byte? (natChars b.toNat ++ rest) = some (b, rest) := by
  have hlength : (natChars b.toNat).length ≤ 3 :=
    (Nat.length_toDigits_le_iff (by decide) (by decide)).2 (Nat.lt_of_lt_of_le b.toNat_lt (by decide))
  have hzero : (natChars b.toNat).head? = some '0' → (natChars b.toNat).length = 1 := by
    intro hhead
    have hpos : 0 < (natChars b.toNat).length := Nat.length_toDigits_pos
    by_contra hone
    exact Json.toDigits_no_leading_zero b.toNat ⟨Nat.lt_of_le_of_ne hpos (Ne.symm hone), hhead⟩
  have hvalue : Nat.ofDigitChars 10 (natChars b.toNat) 0 = b.toNat := Nat.ofDigitChars_ten_toDigits
  rw [byte?, digitRun_append (isDigit_natChars b.toNat) hrest]
  dsimp only
  rw [hvalue, if_pos ⟨Nat.toDigits_ne_nil, hlength, hzero, b.toNat_lt⟩]
  simp

theorem eq_of_byte? {b : UInt8} (h : byte? cs = some (b, rest)) : cs = natChars b.toNat ++ rest := by
  obtain ⟨hcs, hdigits⟩ := digitRun_spec Char.isDigit cs
  rw [byte?] at h
  dsimp only at h
  split at h
  · rename_i hds
    obtain ⟨hne, -, hzero, hlt⟩ := hds
    cases h
    have hbyte : (Nat.ofDigitChars 10 (digitRun Char.isDigit cs).1 0).toUInt8.toNat =
        Nat.ofDigitChars 10 (digitRun Char.isDigit cs).1 0 := UInt8.toNat_ofNat_of_lt' hlt
    rw [hbyte, natChars, toDigits_ofDigitChars hne hdigits hzero]
    exact hcs
  · cases h

theorem quadChars_append (q : Quad) (rest : List Char) :
    quadChars q ++ rest = natChars q.a.toNat ++ '.' :: (natChars q.b.toNat ++ '.' :: (natChars q.c.toNat ++ '.' ::
      (natChars q.d.toNat ++ rest))) := by
  simp [quadChars]

theorem quad?_quadChars (q : Quad) (hrest : Json.EndsDigits rest) : quad? (quadChars q ++ rest) = some (q, rest) := by
  have hdot (cs : List Char) : Json.EndsDigits ('.' :: cs) := by
    simp [Json.EndsDigits]
  have hafter (cs : List Char) : Text.after? ['.'] ('.' :: cs) = some cs := rfl
  rw [quadChars_append, quad?, byte?_natChars _ (hdot _)]
  simp only [Option.bind_eq_bind, Option.bind_some, hafter, byte?_natChars _ (hdot _), byte?_natChars _ hrest]

theorem eq_of_quad? {q : Quad} (h : quad? cs = some (q, rest)) : cs = quadChars q ++ rest := by
  simp only [quad?, Option.bind_eq_bind, Option.bind_eq_some_iff, Text.after?_eq_some_iff] at h
  obtain ⟨⟨a, afterA⟩, ha, _, rfl, ⟨b, afterB⟩, hb, _, rfl, ⟨c, afterC⟩, hc, _, rfl, ⟨d, afterD⟩, hd, h⟩ := h
  cases h
  rw [quadChars_append, eq_of_byte? ha, eq_of_byte? hb, eq_of_byte? hc, eq_of_byte? hd]
  rfl

end Bytes

/-! ## Groups -/

section Groups

variable {first : Bool} {cs ds rest : List Char}

theorem isSome_hexValue?_of_isDigit {c : Char} (h : c.isDigit = true) : (hexValue? c).isSome = true := by
  have hbounds : '0' ≤ c ∧ c ≤ '9' := by
    simpa [Char.isDigit, Char.le_def] using h
  rw [hexValue?, if_pos hbounds]
  rfl

def EndsGroup (rest : List Char) : Prop :=
  ∀ c ∈ rest.head?, (hexValue? c).isSome = false ∧ c ≠ '.'

theorem EndsGroup.endsDigits (h : EndsGroup rest) : Json.EndsDigits rest := by
  intro c hc
  by_contra hdigit
  have hsome := isSome_hexValue?_of_isDigit (Bool.eq_true_of_not_eq_false hdigit)
  rw [(h c hc).1] at hsome
  cases hsome

theorem group?_append {g : UInt16} (h : IsGroup ds g) (hrest : EndsGroup rest) :
    group? (ds ++ rest) = some (g, rest) := by
  rw [group?, digitRun_append h.digits fun c hc => (hrest c hc).1]
  dsimp only
  rw [if_pos ⟨h.ne_nil, h.length_le⟩, h.value]
  simp

theorem getD_hexValue?_lt (c : Char) : (hexValue? c).getD 0 < 16 := by
  have hbound {b : Char} (h : c ≤ b) : c.toNat ≤ b.toNat := UInt32.le_iff_toNat_le.1 h
  unfold hexValue?
  split_ifs with hdigit hlower hupper
  · have h9 : c.toNat ≤ 57 := hbound hdigit.2
    show c.toNat - 48 < 16
    omega
  · have hf : c.toNat ≤ 102 := hbound hlower.2
    show c.toNat - 97 + 10 < 16
    omega
  · have hF : c.toNat ≤ 70 := hbound hupper.2
    show c.toNat - 65 + 10 < 16
    omega
  · exact Nat.zero_lt_succ 15

/-- What hexadecimal digits write has no more of them. -/
theorem foldl_hexValue?_lt (ds : List Char) (n : Nat) :
    ds.foldl (fun n c => n * 16 + (hexValue? c).getD 0) n < (n + 1) * 16 ^ ds.length := by
  induction ds generalizing n with
  | nil => simp
  | cons c ds ih =>
    have hc := getD_hexValue?_lt c
    have hstep : n * 16 + (hexValue? c).getD 0 + 1 ≤ (n + 1) * 16 := by omega
    calc (c :: ds).foldl (fun n c => n * 16 + (hexValue? c).getD 0) n
        < (n * 16 + (hexValue? c).getD 0 + 1) * 16 ^ ds.length := ih _
      _ ≤ (n + 1) * 16 * 16 ^ ds.length := Nat.mul_le_mul_right _ hstep
      _ = (n + 1) * 16 ^ (c :: ds).length := by rw [List.length_cons, Nat.pow_succ']; ring

theorem exists_group {g : UInt16} (h : group? cs = some (g, rest)) : ∃ ds, cs = ds ++ rest ∧ IsGroup ds g := by
  obtain ⟨hcs, hdigits⟩ := digitRun_spec (fun c => (hexValue? c).isSome) cs
  rw [group?] at h
  dsimp only at h
  split at h
  · rename_i hds
    cases h
    refine ⟨_, hcs, hds.1, hds.2, hdigits, (UInt16.toNat_ofNat_of_lt' ?_).symm⟩
    calc _ < (0 + 1) * 16 ^ (digitRun (fun c => (hexValue? c).isSome) cs).1.length := foldl_hexValue?_lt _ 0
      _ ≤ (0 + 1) * 16 ^ 4 := Nat.mul_le_mul_left _ (Nat.pow_le_pow_right (by decide) hds.2)
  · cases h

theorem group?_of_not_digit (hrest : ∀ c ∈ rest.head?, (hexValue? c).isSome = false) : group? rest = none := by
  rw [group?, ← List.nil_append rest, digitRun_append (List.forall_mem_nil _) hrest]
  simp

theorem quad?_of_not_digit (hrest : Json.EndsDigits rest) : quad? rest = none := by
  rw [quad?, byte?, ← List.nil_append rest, digitRun_append (List.forall_mem_nil _) hrest]
  simp

/-- The digits of a group are not the start of a dotted quad. -/
theorem quad?_group {g : UInt16} (h : IsGroup ds g) (hrest : EndsGroup rest) : quad? (ds ++ rest) = none := by
  cases hquad : quad? (ds ++ rest) with
  | none => rfl
  | some found =>
    obtain ⟨q, after⟩ := found
    have heq := eq_of_quad? hquad
    rw [quadChars_append] at heq
    have hdot : ∀ c ∈ ('.' :: (natChars q.b.toNat ++ '.' :: (natChars q.c.toNat ++ '.' ::
        (natChars q.d.toNat ++ after)))).head?, (hexValue? c).isSome = false := by
      simp [hexValue?]
    -- The hexadecimal digits in front would end at the first dot of the quad.
    have hrun := digitRun_append h.digits fun c hc => (hrest c hc).1
    rw [heq, digitRun_append (fun c hc => isSome_hexValue?_of_isDigit (isDigit_natChars _ c hc)) hdot] at hrun
    exact absurd rfl (hrest '.' (by rw [← (Prod.mk.inj hrun).2]; rfl)).2

theorem afterColon?_append {α : Type} (read : List Char → Option (α × List Char)) (first : Bool) (cs : List Char) :
    afterColon? first read (colon first ++ cs) = read cs := by
  cases first <;> rfl

theorem exists_afterColon {α : Type} {read : List Char → Option (α × List Char)} {v : α}
    (h : afterColon? first read cs = some (v, rest)) :
    ∃ more, cs = colon first ++ more ∧ read more = some (v, rest) := by
  cases first with
  | true => exact ⟨cs, rfl, h⟩
  | false =>
    obtain ⟨more, hmore, h⟩ := Option.bind_eq_some_iff.1 h
    exact ⟨more, Text.after?_eq_some_iff.1 hmore, h⟩

/-- What follows all groups of an address: the bracket, a scope, or two colons. -/
inductive EndsParts : List Char → Prop where
  | bracket (more : List Char) : EndsParts (']' :: more)
  | scope (more : List Char) : EndsParts ('%' :: more)
  | gap (more : List Char) : EndsParts (':' :: ':' :: more)

theorem EndsParts.endsGroup (h : EndsParts rest) : EndsGroup rest := by
  cases h <;> simp [EndsGroup, hexValue?]

theorem Parts.endsGroup {dotted : Bool} {gs : List UInt16} (h : Parts false cs gs dotted) (hrest : EndsParts rest) :
    EndsGroup (cs ++ rest) := by
  cases h with
  | none => exact hrest.endsGroup
  | quad q => simp [EndsGroup, colon, hexValue?]
  | group hgroup hlater => simp [EndsGroup, colon, hexValue?]

/-- Where the groups of an address end, no other part is read. -/
theorem EndsParts.afterColon?_eq_none {α : Type} {read : List Char → Option (α × List Char)}
    (hread : ∀ cs, EndsGroup cs → read cs = none) (h : EndsParts rest) (first : Bool) :
    afterColon? first read rest = none := by
  cases first with
  | true => exact hread rest h.endsGroup
  | false =>
    cases h with
    | bracket more => rfl
    | scope more => rfl
    | gap more => exact hread (':' :: more) (by simp [EndsGroup, hexValue?])

/-- Groups are read to their end. -/
theorem readGroups_parts {dotted : Bool} {gs : List UInt16} (h : Parts first cs gs dotted) {limit : Nat}
    (hlimit : gs.length ≤ limit) (hrest : EndsParts rest) :
    readGroups first limit (cs ++ rest) = ⟨gs, dotted, rest⟩ := by
  induction h generalizing limit with
  | @none first =>
    cases limit with
    | zero => rfl
    | succ limit =>
      have hquad := hrest.afterColon?_eq_none (fun cs hcs => quad?_of_not_digit hcs.endsDigits) first
      have hgroup := hrest.afterColon?_eq_none (fun cs hcs => group?_of_not_digit fun c hc => (hcs c hc).1) first
      rw [List.nil_append, readGroups, hquad, hgroup]
      simp
  | @quad first q =>
    -- A quad stands for two groups, so there is place for another one behind the first.
    obtain ⟨limit, rfl⟩ : ∃ k, limit = k + 2 := ⟨limit - 2, by simp at hlimit; omega⟩
    rw [List.append_assoc, readGroups, if_pos (Nat.succ_pos limit), afterColon?_append,
      quad?_quadChars q hrest.endsGroup.endsDigits]
  | @group first dotted ds cs g gs hgroup hlater ih =>
    obtain ⟨limit, rfl⟩ : ∃ k, limit = k + 1 := ⟨limit - 1, by simp at hlimit; omega⟩
    have hends := hlater.endsGroup hrest
    -- A dotted quad is tried first, but no dot follows the digits of a group.
    have hquad :
        (if 0 < limit then afterColon? first quad? (colon first ++ (ds ++ (cs ++ rest))) else none) = none := by
      rw [afterColon?_append, quad?_group hgroup hends, ite_self]
    have hlater := ih (Nat.le_of_succ_le_succ hlimit)
    rw [List.append_assoc, List.append_assoc, readGroups, hquad, afterColon?_append, group?_append hgroup hends]
    dsimp only
    rw [hlater]

/-- Whatever groups are read were written in front of the rest. -/
theorem exists_parts (first : Bool) (limit : Nat) (cs : List Char) :
    ∃ text, cs = text ++ (readGroups first limit cs).rest ∧
      Parts first text (readGroups first limit cs).groups (readGroups first limit cs).dotted ∧
      (readGroups first limit cs).groups.length ≤ limit := by
  induction limit generalizing first cs with
  | zero => exact ⟨[], rfl, .none, Nat.le_refl 0⟩
  | succ limit ih =>
    rw [readGroups]
    split
    · rename_i q rest hquad
      split at hquad
      · rename_i hlimit
        obtain ⟨more, rfl, hmore⟩ := exists_afterColon hquad
        refine ⟨colon first ++ quadChars q, ?_, .quad q, Nat.succ_le_succ hlimit⟩
        rw [eq_of_quad? hmore, List.append_assoc]
      · cases hquad
    · split
      · rename_i g rest hgroup
        obtain ⟨more, rfl, hmore⟩ := exists_afterColon hgroup
        obtain ⟨ds, rfl, hds⟩ := exists_group hmore
        obtain ⟨text, htext, hparts, hlength⟩ := ih false rest
        refine ⟨colon first ++ (ds ++ text), ?_, .group hds hparts, Nat.succ_le_succ hlength⟩
        dsimp only
        rw [List.append_assoc, List.append_assoc, ← htext]
      · exact ⟨[], rfl, .none, Nat.zero_le _⟩

inductive EndsAddress : List Char → Prop where
  | bracket (more : List Char) : EndsAddress (']' :: more)
  | scope (more : List Char) : EndsAddress ('%' :: more)

theorem EndsAddress.endsParts (h : EndsAddress rest) : EndsParts rest := by
  cases h with
  | bracket more => exact .bracket more
  | scope more => exact .scope more

/-- The groups of an address: all that are in front, or those on both sides of two colons and zeros for the others. -/
inductive Filled (head : Groups) (groups : List UInt16) (rest : List Char) : Prop where
  | full (hgroups : head.groups = groups) (hrest : head.rest = rest)
  | short {more : List Char} {tail : Groups} (hlength : head.groups.length ≠ 8) (hdotted : head.dotted = false)
      (hmore : head.rest = ':' :: ':' :: more) (htail : readGroups true (7 - head.groups.length) more = tail)
      (hrest : tail.rest = rest)
      (hgroups : groups =
        head.groups ++ List.replicate (8 - head.groups.length - tail.groups.length) 0 ++ tail.groups)

theorem mk_toArray_eq_iff {groups : Vector UInt16 8} {gs : List UInt16} {hsize : gs.toArray.size = 8} :
    Vector.mk gs.toArray hsize = groups ↔ groups.toList = gs := by
  constructor
  · rintro rfl
    rfl
  · rintro rfl
    rfl

theorem groups?_of_filled {groups : Vector UInt16 8} (h : Filled (readGroups true 8 cs) groups.toList rest) :
    groups? cs = some (groups, rest) := by
  have htotal : groups.toList.length = 8 := groups.length_toList
  rw [groups?]
  dsimp only
  cases h with
  | full hgroups hrest =>
    rw [dif_pos (hgroups ▸ htotal), Option.some_inj, Prod.mk.injEq, mk_toArray_eq_iff]
    exact ⟨hgroups.symm, hrest⟩
  | @short more _ hlength hdotted hmore htail hrest hgroups =>
    subst htail
    rw [hgroups] at htotal
    rw [dif_neg hlength, hdotted, if_neg Bool.false_ne_true]
    refine Option.bind_eq_some_iff.2 ⟨more, Text.after?_eq_some_iff.2 hmore, ?_⟩
    rw [dif_pos htotal, Option.some_inj, Prod.mk.injEq, mk_toArray_eq_iff]
    exact ⟨hgroups, hrest⟩

theorem filled_of_groups? {groups : Vector UInt16 8} (h : groups? cs = some (groups, rest)) :
    Filled (readGroups true 8 cs) groups.toList rest := by
  rw [groups?] at h
  dsimp only at h
  split at h
  · rw [Option.some_inj, Prod.mk.injEq, mk_toArray_eq_iff] at h
    exact .full h.1.symm h.2
  · rename_i hlength
    split at h
    · cases h
    · rename_i hdotted
      obtain ⟨more, hmore, h⟩ := Option.bind_eq_some_iff.1 h
      split at h
      · rw [Option.some_inj, Prod.mk.injEq, mk_toArray_eq_iff] at h
        exact .short hlength (Bool.eq_false_of_not_eq_true hdotted) (Text.after?_eq_some_iff.1 hmore) rfl h.2 h.1
      · cases h

theorem groups?_append {groups : Vector UInt16 8} (h : AddressText cs groups.toList) (hrest : EndsAddress rest) :
    groups? (cs ++ rest) = some (groups, rest) := by
  apply groups?_of_filled
  generalize groups.toList = gs at h
  cases h with
  | full hparts hlength =>
    rw [readGroups_parts hparts (Nat.le_of_eq hlength) hrest.endsParts]
    exact .full rfl rfl
  | @short dotted front back head tail hfront hback hlength =>
    have hhead : head.length < 8 := Nat.lt_of_le_of_lt (Nat.le_add_right _ _) hlength
    have htail : tail.length ≤ 7 - head.length := by omega
    have htext : (front ++ ':' :: ':' :: back) ++ rest = front ++ ':' :: ':' :: (back ++ rest) := by
      simp
    rw [htext, readGroups_parts hfront (Nat.le_of_lt hhead) (.gap _)]
    exact .short (Nat.ne_of_lt hhead) rfl rfl (readGroups_parts hback htail hrest.endsParts) rfl rfl

theorem exists_address {groups : Vector UInt16 8} (h : groups? cs = some (groups, rest)) :
    ∃ text, cs = text ++ rest ∧ AddressText text groups.toList := by
  obtain ⟨front, hcs, hfront, hlimit⟩ := exists_parts true 8 cs
  cases filled_of_groups? h with
  | full hgroups hrest =>
    rw [hgroups] at hfront
    exact ⟨front, hrest ▸ hcs, .full hfront groups.length_toList⟩
  | @short more tail hlength hdotted hmore htail hrest hgroups =>
    obtain ⟨back, hback, hparts, hlater⟩ := exists_parts true (7 - (readGroups true 8 cs).groups.length) more
    rw [htail] at hback hparts hlater
    rw [hdotted] at hfront
    refine ⟨front ++ ':' :: ':' :: back, ?_, ?_⟩
    · calc cs = front ++ ':' :: ':' :: more := by rw [← hmore]; exact hcs
        _ = front ++ ':' :: ':' :: (back ++ rest) := by rw [← hrest, ← hback]
        _ = (front ++ ':' :: ':' :: back) ++ rest := by simp
    · rw [hgroups]
      exact .short hfront hparts (by omega)

end Groups

/-! ## Whole texts -/

section Texts

variable {cs ds rest : List Char}

theorem scope?_append {zone : List Char} {scope : UInt32} (h : ScopeText zone scope) (rest : List Char) :
    scope? (zone ++ ']' :: rest) = some (scope, ']' :: rest) := by
  cases h with
  | none => rfl
  | some hscope =>
    rw [List.cons_append, scope?, decimal?_append hscope scope.toNat_lt (by simp [Json.EndsDigits])]
    simp

theorem exists_scope {scope : UInt32} (h : scope? cs = some (scope, rest)) :
    ∃ zone, cs = zone ++ rest ∧ ScopeText zone scope := by
  rw [scope?.eq_def] at h
  split at h
  · rename_i cs
    obtain ⟨⟨n, after⟩, hnumber, h⟩ := Option.map_eq_some_iff.1 h
    cases h
    obtain ⟨ds, rfl, hds, hn⟩ := exists_decimal hnumber
    rw [← UInt32.toNat_ofNat_of_lt' hn] at hds
    exact ⟨'%' :: ds, rfl, .some hds⟩
  · cases h
    exact ⟨[], rfl, .none⟩

theorem port?_append {port : UInt16} (h : IsDecimal ds port.toNat) : port? (':' :: ds) = some (port, []) := by
  have hafter : Text.after? [':'] (':' :: ds) = some ds := rfl
  have hnumber := @decimal?_append ds [] 65536 _ h port.toNat_lt (by simp [Json.EndsDigits])
  rw [List.append_nil] at hnumber
  simp [port?, hafter, hnumber]

theorem exists_port {port : UInt16} (h : port? cs = some (port, rest)) :
    ∃ ds, cs = ':' :: (ds ++ rest) ∧ IsDecimal ds port.toNat := by
  simp only [port?, Option.bind_eq_bind, Option.bind_eq_some_iff, Text.after?_eq_some_iff] at h
  obtain ⟨_, rfl, ⟨n, after⟩, hnumber, h⟩ := h
  cases h
  obtain ⟨ds, rfl, hds, hn⟩ := exists_decimal hnumber
  rw [← UInt16.toNat_ofNat_of_lt' hn] at hds
  exact ⟨ds, rfl, hds⟩

theorem written_of_v4? {address : SocketAddress} (h : v4? cs = some (address, [])) : Written cs address := by
  simp only [v4?, Option.bind_eq_bind, Option.bind_eq_some_iff] at h
  obtain ⟨⟨q, afterQuad⟩, hquad, ⟨port, afterPort⟩, hport, h⟩ := h
  cases h
  obtain ⟨ds, rfl, hds⟩ := exists_port hport
  rw [eq_of_quad? hquad, List.append_nil]
  exact .v4 q hds

theorem written_of_v6? {address : SocketAddress} (h : v6? cs = some (address, [])) : Written cs address := by
  simp only [v6?, Option.bind_eq_bind, Option.bind_eq_some_iff, Text.after?_eq_some_iff] at h
  obtain ⟨_, rfl, ⟨groups, afterGroups⟩, hgroups, ⟨scope, _⟩, hscope, _, rfl, ⟨port, afterPort⟩, hport, h⟩ := h
  cases h
  obtain ⟨address, rfl, haddress⟩ := exists_address hgroups
  obtain ⟨zone, rfl, hzone⟩ := exists_scope hscope
  obtain ⟨ds, rfl, hds⟩ := exists_port hport
  have hwritten := Written.v6 haddress hzone hds
  simpa using hwritten

theorem Written.read {address : SocketAddress} (h : Written cs address) :
    (v4? cs <|> v6? cs) = some (address, []) := by
  cases h with
  | @v4 ds port q hport =>
    have hquad := quad?_quadChars q (show Json.EndsDigits (':' :: ds) by simp [Json.EndsDigits])
    simp [v4?, hquad, port?_append hport]
  | @v6 address zone ds groups scope port haddress hscope hport =>
    have hends : EndsAddress (zone ++ ']' :: ':' :: ds) := by
      cases hscope with
      | none => exact .bracket _
      | some => exact .scope _
    have hv4 : v4? ('[' :: (address ++ (zone ++ ']' :: ':' :: ds))) = none := by
      rw [v4?, quad?_of_not_digit (by simp [Json.EndsDigits])]
      rfl
    have hopen (cs : List Char) : Text.after? ['['] ('[' :: cs) = some cs := rfl
    have hclose (cs : List Char) : Text.after? [']'] (']' :: cs) = some cs := rfl
    refine (Option.orElse_eq_some _ _ _).2 (.inr ⟨hv4, ?_⟩)
    rw [v6?, hopen, Option.bind_eq_bind, Option.bind_some, groups?_append haddress hends]
    simp [scope?_append hscope, hclose, port?_append hport]

/-- A text reads as an address exactly if it writes the address. -/
theorem ofText?_eq_some_iff {text : String} {address : SocketAddress} :
    ofText? text = some address ↔ Written text.toList address := by
  rw [ofText?]
  constructor
  · intro h
    split at h
    · rename_i hread
      cases h
      rcases (Option.orElse_eq_some _ _ _).1 hread with h4 | ⟨-, h6⟩
      · exact written_of_v4? h4
      · exact written_of_v6? h6
    · cases h
  · intro h
    rw [h.read]

/-! ## The port -/

/-- A text has one last colon, if it has one at all. -/
theorem behind_last_colon {front front' back back' : List Char} (hback : ':' ∉ back) (hback' : ':' ∉ back')
    (h : front ++ ':' :: back = front' ++ ':' :: back') : back = back' := by
  have hrun {front back : List Char} (hback : ':' ∉ back) :
      digitRun (fun c => c ≠ ':') (front ++ ':' :: back).reverse = (back.reverse, ':' :: front.reverse) := by
    rw [List.reverse_append, List.reverse_cons, List.append_assoc, List.singleton_append]
    refine digitRun_append (fun c hc => decide_eq_true ?_) (by simp)
    rintro rfl
    exact hback (List.mem_reverse.1 hc)
  have heq := @hrun front back hback
  rw [h, hrun hback'] at heq
  exact List.reverse_injective (Prod.mk.inj heq).1.symm

/-- The port of an address stands behind the last colon. -/
theorem Written.exists_port {address : SocketAddress} (h : Written cs address) :
    ∃ front ds, cs = front ++ ':' :: ds ∧ IsDecimal ds address.port.toNat := by
  cases h with
  | v4 q hport => exact ⟨_, _, rfl, hport⟩
  | @v6 address zone ds groups scope port haddress hscope hport =>
    exact ⟨'[' :: (address ++ (zone ++ [']'])), ds, by simp, hport⟩

/-- No text in front of a colon and a port moves the place where the port is read. -/
theorem Written.port_eq {front : List Char} {address : SocketAddress} {port : UInt16}
    (h : Written (front ++ ':' :: ds) address) (hport : IsDecimal ds port.toNat) : address.port = port := by
  obtain ⟨front', ds', heq, hread⟩ := h.exists_port
  obtain rfl := behind_last_colon (hport.not_mem rfl) (hread.not_mem rfl) heq
  exact UInt16.toNat_inj.1 (hread.value.symm.trans hport.value)

end Texts
end SocketAddress
end ModelContext
