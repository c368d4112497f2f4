import SerialBus.Bench.Budget
import SerialBus.Bench.Script
import SerialBus.Proofs.Arbitration
import SerialBus.Proofs.Deadlines
import SerialBus.Proofs.Divisors
import SerialBus.Proofs.DmaArming
import SerialBus.Proofs.Interchange
import SerialBus.Proofs.Loopback
import SerialBus.Proofs.PinLevels
import SerialBus.Proofs.PollLimits
import SerialBus.Proofs.Reconfiguration
import SerialBus.Proofs.Recording
import SerialBus.Proofs.RegisterFrame
import SerialBus.Proofs.Transactions
import SerialBus.Proofs.Setters
