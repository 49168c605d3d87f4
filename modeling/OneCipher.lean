import OneCipher.Signer.SignedTx
import OneCipher.Signer.Solana
import OneCipher.Ocwp.Registries
import OneCipher.Ocwp.StepUpRuns
import OneCipher.Ocwp.SessionRuns
import OneCipher.Ocwp.SetCode
import OneCipher.Ocwp.Preview
import OneCipher.Ocwp.SignAudit
import OneCipher.NetAgent.ChainScope
import OneCipher.NetAgent.SessionStore
import OneCipher.Policy.Alerts
import OneCipher.Policy.Strategies
import OneCipher.NetAgent.Simulate
import OneCipher.Extension.Consent
import OneCipher.Extension.ConsentQueue
import OneCipher.Extension.Origins
import OneCipher.KeyAgent.SessionKeys
import OneCipher.KeyAgent.ChallengeRuns
import OneCipher.KeyAgent.EnclavePipes
import OneCipher.WebUi.ApprovalLog
import OneCipher.Wallet.PolicyCrash
import OneCipher.Siwx.RoundTrip
import OneCipher.KeyAgent.SignSiwx
import OneCipher.Secret.Replay
import OneCipher.Secret.Rollback
import OneCipher.Secret.JournalPower
import OneCipher.Secret.Git
import OneCipher.KeyAgent.AuditMerge
import OneCipher.KeyAgent.Frame
