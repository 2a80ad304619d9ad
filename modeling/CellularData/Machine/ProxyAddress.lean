import CellularData.Text.Split

/-! The proxy address of a profile: host and port around a single colon. -/
namespace CellularData

variable {isValidDecValue : String → Bool} {proxyIpAddress : String}
  {segment cs before after : List Char}

theorem proxyPieces_eq_splitOn :
    proxyPieces segment cs = (List.splitOnPPrepend (· == ':') cs segment).map String.ofList := by
  induction cs generalizing segment with
  | nil => rfl
  | cons c cs ih =>
    rw [List.splitOnPPrepend_cons_eq_if, ← List.splitOnPPrepend_nil_right]
    unfold proxyPieces
    by_cases hc : c = ':'
    · rw [if_pos hc, if_pos (beq_iff_eq.mpr hc), List.map_cons, ih]
    · rw [if_neg hc, if_neg (fun h => hc (beq_iff_eq.mp h)), ih]

theorem proxyPieces_nil (cs : List Char) :
    proxyPieces [] cs = (cs.splitOn ':').map String.ofList :=
  proxyPieces_eq_splitOn

/-- A decimal number. -/
def IsDecimal (s : List Char) : Prop := s ≠ [] ∧ ∀ c ∈ s, c.isDigit = true

instance (s : List Char) : Decidable (IsDecimal s) := inferInstanceAs (Decidable (_ ∧ _))

/-- The test of the core service accepts the decimal numbers. -/
def AcceptsDecimals (isValidDecValue : String → Bool) : Prop :=
  ∀ s, isValidDecValue s = true ↔ IsDecimal s.toList

theorem acceptsDecimals_isDecValue : AcceptsDecimals isDecValue := by
  intro s
  unfold isDecValue IsDecimal
  rw [Bool.and_eq_true, decide_eq_true_eq, List.all_eq_true]

theorem AcceptsDecimals.ofList (h : AcceptsDecimals isValidDecValue) (s : List Char) :
    isValidDecValue (String.ofList s) = true ↔ IsDecimal s := by
  rw [h, String.toList_ofList]

theorem colon_notMem_of_isDecimal (h : IsDecimal after) : ':' ∉ after := by
  intro hmem
  exact absurd (h.2 ':' hmem) (by decide)

/-! The three shapes of an address -/

theorem splitProxyIpAddress_of_noColon (h : ':' ∉ proxyIpAddress.toList) :
    splitProxyIpAddress isValidDecValue proxyIpAddress = some { host := proxyIpAddress } := by
  unfold splitProxyIpAddress
  rw [proxyPieces_nil, List.splitOn_eq_singleton h, List.map_singleton, String.ofList_toList]

theorem splitProxyIpAddress_of_colon (haccepts : AcceptsDecimals isValidDecValue)
    (hs : proxyIpAddress.toList = before ++ ':' :: after) (hbefore : ':' ∉ before)
    (hafter : ':' ∉ after) : splitProxyIpAddress isValidDecValue proxyIpAddress =
      if IsDecimal after then
        if decimalValue after < 2 ^ 31 then
          some { host := String.ofList before, port := decimalValue after % 2 ^ 16 }
        else none
      else some { host := String.ofList before } := by
  unfold splitProxyIpAddress
  rw [proxyPieces_nil, hs, List.splitOn_append_cons_self_of_not_mem hbefore,
    List.splitOn_eq_singleton hafter]
  show (if isValidDecValue (String.ofList after) then _ else _) = _
  rw [if_congr (haccepts.ofList after) rfl rfl, String.toList_ofList]

theorem splitProxyIpAddress_of_colons (h : 2 ≤ proxyIpAddress.toList.count ':') :
    splitProxyIpAddress isValidDecValue proxyIpAddress = some {} := by
  have hlength : (proxyPieces [] proxyIpAddress.toList).length =
      proxyIpAddress.toList.count ':' + 1 := by
    rw [proxyPieces_nil, List.length_map, Lib.length_splitOn]
  unfold splitProxyIpAddress
  split
  · rename_i hpieces
    rw [hpieces, List.length_singleton] at hlength
    omega
  · rename_i hpieces
    rw [hpieces] at hlength
    simp only [List.length_cons, List.length_nil] at hlength
    omega
  · rfl

/-- The port that a text stands for. -/
def portOf (s : List Char) : Nat :=
  if IsDecimal s ∧ decimalValue s ≤ 65535 then decimalValue s else 0

/-- Host and port are those of the address, and no exception is thrown. -/
structure ParsesProxy (proxyIpAddress : String) (result : Option HttpProxy) : Prop where
  no_colon : ':' ∉ proxyIpAddress.toList → result = some { host := proxyIpAddress, port := 0 }
  one_colon : ∀ before after, proxyIpAddress.toList = before ++ ':' :: after → ':' ∉ before →
    ':' ∉ after → result = some { host := String.ofList before, port := portOf after }
  more_colons : 2 ≤ proxyIpAddress.toList.count ':' → result = some { host := "", port := 0 }

/-- The number behind a single colon is a port, or an `int` of which nothing is left in 16 bits. -/
def PortFits (proxyIpAddress : String) : Prop :=
  ∀ before after, proxyIpAddress.toList = before ++ ':' :: after → ':' ∉ before →
    IsDecimal after → decimalValue after ≤ 65535 ∨ decimalValue after < 2 ^ 31 ∧ 65536 ∣ decimalValue after

theorem portOf_of_not_isDecimal (h : ¬ IsDecimal after) : portOf after = 0 :=
  if_neg fun hport => h hport.1

theorem narrowed_eq_portOf_iff (h : IsDecimal after) :
    decimalValue after % 2 ^ 16 = portOf after ↔
      decimalValue after ≤ 65535 ∨ 65536 ∣ decimalValue after := by
  unfold portOf
  by_cases hle : decimalValue after ≤ 65535
  · rw [if_pos ⟨h, hle⟩]
    exact iff_of_true (Nat.mod_eq_of_lt (by omega)) (.inl hle)
  · rw [if_neg (fun hport => hle hport.2), or_iff_right hle]
    omega

/-- The parse is right exactly where the port fits. -/
theorem splitProxyIpAddress_parses_iff (haccepts : AcceptsDecimals isValidDecValue)
    (proxyIpAddress : String) :
    ParsesProxy proxyIpAddress (splitProxyIpAddress isValidDecValue proxyIpAddress) ↔
      PortFits proxyIpAddress := by
  constructor
  · intro h before after hs hbefore hvalid
    have hafter := colon_notMem_of_isDecimal hvalid
    have hresult := h.one_colon before after hs hbefore hafter
    rw [splitProxyIpAddress_of_colon haccepts hs hbefore hafter, if_pos hvalid] at hresult
    split_ifs at hresult with hint
    rw [Option.some.injEq, HttpProxy.mk.injEq] at hresult
    rcases (narrowed_eq_portOf_iff hvalid).mp hresult.2 with hle | hdvd
    · exact .inl hle
    · exact .inr ⟨hint, hdvd⟩
  · intro h
    constructor
    · exact splitProxyIpAddress_of_noColon
    · intro before after hs hbefore hafter
      rw [splitProxyIpAddress_of_colon haccepts hs hbefore hafter]
      by_cases hvalid : IsDecimal after
      · have hfits := h before after hs hbefore hvalid
        have hint : decimalValue after < 2 ^ 31 := by omega
        have hport := (narrowed_eq_portOf_iff hvalid).mpr (hfits.imp_right And.right)
        rw [if_pos hvalid, if_pos hint, hport]
      · rw [if_neg hvalid, portOf_of_not_isDecimal hvalid]
    · exact splitProxyIpAddress_of_colons

theorem splitProxyIpAddress_parses_wap :
    ParsesProxy "10.0.0.172:80" (splitProxyIpAddress isDecValue "10.0.0.172:80") ↔
      PortFits "10.0.0.172:80" :=
  splitProxyIpAddress_parses_iff acceptsDecimals_isDecValue "10.0.0.172:80"

/-- A port is taken modulo 65536, and beyond an `int` there is an exception. -/
theorem ports_beyond_16_bits :
    splitProxyIpAddress isDecValue "10.0.0.172:65616" =
        some { host := "10.0.0.172", port := 80 } ∧
      splitProxyIpAddress isDecValue "10.0.0.172:2147483648" = none ∧
      ¬ ParsesProxy "10.0.0.172:65616" (splitProxyIpAddress isDecValue "10.0.0.172:65616") ∧
      ¬ ParsesProxy "10.0.0.172:2147483648"
        (splitProxyIpAddress isDecValue "10.0.0.172:2147483648") := by
  have hnarrowed : splitProxyIpAddress isDecValue "10.0.0.172:65616" =
      some { host := "10.0.0.172", port := 80 } := by decide
  have hthrown : splitProxyIpAddress isDecValue "10.0.0.172:2147483648" = none := by decide
  refine ⟨hnarrowed, hthrown, ?_, ?_⟩
  · intro h
    have hresult := h.one_colon "10.0.0.172".toList "65616".toList (by decide) (by decide)
      (by decide)
    have hport : portOf "65616".toList = 0 := if_neg fun hport => absurd hport.2 (by decide)
    rw [hnarrowed, hport] at hresult
    exact absurd hresult (by decide)
  · intro h
    have hresult := h.one_colon "10.0.0.172".toList "2147483648".toList (by decide) (by decide)
      (by decide)
    rw [hthrown] at hresult
    cases hresult

end CellularData
