import YuPostWallet.Util.StdMap
import YuPostWallet.Util.StrEncodings
import YuPostWallet.Serialize.Stream
import YuPostWallet.Wallet.WalletTx
import YuPostWallet.Wallet.WalletTxCodec
import YuPostWallet.Wallet.RescanReserver
import YuPostWallet.Qt.UnlockContext
import YuPostWallet.Qt.WalletWorker
import YuPostWallet.Wallet.TokenRecords
import YuPostWallet.Qt.PrepareTransaction
import YuPostWallet.Qt.Regex
import YuPostWallet.Qt.VersionChecker
import YuPostWallet.Qt.HardwareWallet
import YuPostWallet.Qt.GuiThread
import YuPostWallet.Qt.PushButton
import YuPostWallet.Qt.SendCoins
import YuPostWallet.Qt.BumpFee
import YuPostWallet.Qt.WalletStorage
import YuPostWallet.Qt.HardwareImport
