import UnifiedService.Rewards.LedgerProperties

/-! Why a grant throws. Every error of a benefit names what refused it: its schema, a currency
that is nowhere stated, too few points, a number past its range, or the row of the benefit
itself, which is there already. -/

set_option autoImplicit false

namespace UnifiedService.Rewards

open UnifiedService.Library

/-! ### Numbers past their range -/

namespace WalletStore

variable {store next : WalletStore} {error : RewardError}

end WalletStore

/-! ### One benefit -/

section Handlers

variable {context : BenefitContext} {db : RewardDb} {error : RewardError}

end Handlers

/-! ### A grant -/

end UnifiedService.Rewards
